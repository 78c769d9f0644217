import Rerouter.ManualAdmission
import Rerouter.ScheduledRecovery

/-!
# Manual admission, over runs

A plan is accepted as one bundle, a request id makes one bundle, a source is held by one child at a
time and for the actions it owns, and a bundle gets one worker, from the call that made it
(`Rerouter.Manual.exactly_once`).

A call reads and writes under the policy fence, so that what it read is still so when it writes
(`Rerouter.Manual.Fresh`). Apart from the fence, the invariant has three parts: the associations of
the recoveries (`Rerouter.Manual.Stored`), what was inserted and for which request
(`Rerouter.Manual.Recorded`), and where the calls and the workers are
(`Rerouter.Manual.Tended`).
-/

namespace Rerouter.Manual

open Table

/-! ### What is to hold -/

/-- An unsettled child holds the claim of a source. -/
def HoldsClaim (db : Db) (child source : ℕ) : Prop :=
  ∃ m ∈ db.attempts, m.child = child ∧ m.source = source ∧ m.settlement.settled = false ∧
    ∃ b ∈ db.bundles, b.id = source ∧ b.claim = some m.token

/-- **Manual admission is exactly once.** -/
structure ExactlyOnce (s : System) : Prop where
  plan : ∀ row ∈ s.manual, ∀ row' ∈ s.manual, ∀ plan, row.request.plan = some plan →
    row'.request.plan = some plan → row = row'
  request : ∀ row ∈ s.manual, ∀ row' ∈ s.manual, ∀ key, row.request.applyKey = some key →
    row'.request.applyKey = some key → row = row'
  holder : ∀ child child' source, HoldsClaim s.db child source → HoldsClaim s.db child' source →
    child = child'
  /-- What a source owns is what the child is to invert of it, and did not invert yet. -/
  owned : ∀ row ∈ s.manual, ∀ source, HoldsClaim s.db row.id source → ∀ original,
    original ∈ ownedOriginals s.db source ↔ original ∈ row.run.originals ∧
      (∃ r ∈ originals s.db source, r.id = original) ∧ inverted s.db original = false
  started : (s.workers.map Worker.bundle).Nodup
  creator : ∀ w ∈ s.workers, ∃ row ∈ s.manual, row.id = w.bundle ∧ row.creator = w.call

/-! ### What a source owns -/

section Held

variable {db next : Db} {held : List ℕ} {source : ℕ} {r : RerouteRow}

/-- The actions that a child is to invert are, of one source, those that it owned. -/
def HeldExactly (db : Db) (held : List ℕ) (source : ℕ) : Prop :=
  ∀ r ∈ originals db source, r.id ∈ ownedOriginals db source ↔ r.id ∈ held ∧
      inverted db r.id = false

theorem exists_of_mem_ownedOriginals {original : ℕ} (h : original ∈ ownedOriginals db source) :
    ∃ r ∈ originals db source, r.id = original ∧ inverted db r.id = false := by
  obtain ⟨r, hr, rfl⟩ := List.mem_map.mp h
  obtain ⟨hmem, hcond⟩ := List.mem_filter.mp hr
  refine ⟨r, hmem, rfl, ?_⟩
  simp only [Bool.and_eq_true, Bool.not_eq_true'] at hcond
  exact hcond.2

/-- What an original has to be, to be owned. -/
theorem mem_ownedOriginals_iff (hkeyed : Keyed RerouteRow.id db.reroutes)
    (hr : r ∈ originals db source) :
    r.id ∈ ownedOriginals db source ↔
      ((r.state = .succeeded ∨ r.state = .failed) ∧ r.effect = .changed) ∧
      inverted db r.id = false := by
  constructor
  · intro h
    obtain ⟨r', hr', hid⟩ := List.mem_map.mp h
    obtain ⟨hmem, hcond⟩ := List.mem_filter.mp hr'
    obtain rfl : r' = r :=
      hkeyed.eq_of_key_eq (List.mem_filter.mp hmem).1 (List.mem_filter.mp hr).1 hid
    simpa using hcond
  · intro h
    exact List.mem_map.mpr ⟨r, List.mem_filter.mpr ⟨hr, by simpa using h⟩, rfl⟩

theorem HeldExactly.congr (h : HeldExactly db held source)
    (hreroutes : next.reroutes = db.reroutes) :
    HeldExactly next held source := by
  intro r hr
  rw [originals_congr hreroutes] at hr
  rw [ownedOriginals_congr hreroutes, inverted, hreroutes]
  exact h r hr

/-- **What is left to invert shrinks by what is inverted.** -/
theorem HeldExactly.kept (h : HeldExactly db held source) (hkeyed : Keyed RerouteRow.id db.reroutes)
    (hnext : Keyed RerouteRow.id next.reroutes)
    (hsame : originals next source = originals db source)
    (hinverted : ∀ r ∈ originals db source, inverted db r.id = true → inverted next r.id = true) :
    HeldExactly next held source := by
  intro r hr
  have hold : r ∈ originals db source := hsame ▸ hr
  have hback : inverted next r.id = false → inverted db r.id = false := fun hnot =>
    Bool.eq_false_iff.mpr fun hinv => by
      rw [hinverted r hold hinv] at hnot
      cases hnot
  have hdb := (mem_ownedOriginals_iff hkeyed hold).symm.trans (h r hold)
  rw [mem_ownedOriginals_iff hnext hr]
  constructor
  · rintro ⟨hover, hnot⟩
    exact ⟨(hdb.mp ⟨hover, hback hnot⟩).1, hnot⟩
  · rintro ⟨hheld, hnot⟩
    exact ⟨(hdb.mpr ⟨hheld, hback hnot⟩).1, hnot⟩

theorem HeldExactly.iff (h : HeldExactly db held source) (original : ℕ) :
    original ∈ ownedOriginals db source ↔
      original ∈ held ∧ (∃ r ∈ originals db source, r.id = original) ∧
        inverted db original = false := by
  constructor
  · intro howned
    obtain ⟨r, hr, rfl, hnot⟩ := exists_of_mem_ownedOriginals howned
    exact ⟨((h r hr).mp howned).1, ⟨r, hr, rfl⟩, hnot⟩
  · rintro ⟨hheld, ⟨r, hr, rfl⟩, hnot⟩
    exact (h r hr).mpr ⟨hheld, hnot⟩

end Held

/-! ### A claim -/

section Claim

variable {db next : Db} {child : ℕ} {token : ClaimToken} {manual : Bool} {sources expected : List ℕ}

/-- What the claim of a child has changed so far. -/
structure ClaimFrame (old : Db) (child : ℕ) (token : ClaimToken) (sources : List ℕ)
    (db : Db) : Prop where
  reroutes : db.reroutes = old.reroutes
  attempts : ∀ m ∈ db.attempts, m ∈ old.attempts ∨ m.child = child ∧ m.token = token ∧
    m.source ∈ sources
  bundles : ∀ b ∈ db.bundles, ∃ b' ∈ old.bundles, b'.id = b.id ∧
    (b.claim = b'.claim ∨ b.claim = some token)

theorem ClaimFrame.refl (db : Db) (child : ℕ) (token : ClaimToken) (sources : List ℕ) :
    ClaimFrame db child token sources db :=
  ⟨rfl, fun _ hm => Or.inl hm, fun b hb => ⟨b, hb, rfl, Or.inl rfl⟩⟩

theorem ClaimFrame.claimSource {old : Db} (h : ClaimFrame old child token sources db) {source : ℕ}
    (hsource : source ∈ sources) (hclaim : claimSource child token manual db source = some next) :
    ClaimFrame old child token sources next := by
  rw [Rerouter.claimSource] at hclaim
  split_ifs at hclaim
  obtain rfl := Option.some.inj hclaim
  refine ⟨h.reroutes, fun m hm => ?_, fun b hb => ?_⟩
  · rcases List.mem_append.mp hm with hm | hm
    · exact h.attempts m hm
    · obtain rfl := List.mem_singleton.mp hm
      exact Or.inr ⟨rfl, rfl, hsource⟩
  · obtain ⟨a, ha, rfl⟩ := mem_update.mp hb
    obtain ⟨a', ha', hid, hclaim⟩ := h.bundles a ha
    split
    · exact ⟨a', ha', hid, Or.inr rfl⟩
    · exact ⟨a', ha', hid, hclaim⟩

/-- **The spec of a claim**: what it takes, and what it leaves. -/
theorem claimSourcesForChild_spec
    (h : claimSourcesForChild db child sources expected token manual = some next) :
    ∃ claimed owned, ownershipForSources db sources = some (claimed, owned) ∧
      owned = expected.insertionSort (· ≥ ·) ∧ ClaimFrame db child token claimed next := by
  rw [claimSourcesForChild] at h
  rcases howned : ownershipForSources db sources with _ | ⟨claimed, owned⟩
  · simp [howned] at h
  simp only [howned] at h
  split_ifs at h with hexpected
  obtain ⟨mid, hmid, rfl⟩ := Option.map_eq_some_iff.mp h
  have hframe : ClaimFrame db child token claimed mid :=
    Run.foldlM_invariant (fun _ _ hsource _ hs hstep => hs.claimSource hsource hstep)
      (ClaimFrame.refl db child token claimed) hmid
  obtain ⟨hbundles, hattempts⟩ := foldl_claimMembership_frame child owned mid
  refine ⟨claimed, owned, rfl, not_not.mp hexpected, ?_, ?_, ?_⟩
  · rw [(foldl_claimMembership_ledgers child owned mid).1]
    exact hframe.reroutes
  · rw [hattempts]
    exact hframe.attempts
  · rw [hbundles]
    exact hframe.bundles

/-- All that is claimed together may be recovered, and what is owned is owned by one of the
sources. -/
theorem of_ownershipForSources {claimed owned : List ℕ}
    (h : ownershipForSources db sources = some (claimed, owned)) :
    (∀ source ∈ sources, recoverable db source = true) ∧
      ∀ original, original ∈ owned ↔ ∃ source ∈ claimed, original ∈ ownedOriginals db source := by
  rw [ownershipForSources] at h
  split_ifs at h with hnot
  obtain ⟨hclaimed, rfl⟩ := Prod.mk.inj (Option.some.inj h)
  obtain ⟨-, hall⟩ := not_or.mp hnot
  refine ⟨fun source hsource => ?_, fun original => ?_⟩
  · refine List.all_eq_true.mp (not_not.mp hall) source ?_
    rw [List.mem_dedup, List.mem_insertionSort]
    exact hsource
  · rw [← hclaimed, List.mem_insertionSort, List.mem_flatMap]

/-- **A child holds its sources for exactly what they own.** -/
theorem claimed_heldExactly (hkeyed : Keyed RerouteRow.id db.reroutes) {claimed owned : List ℕ}
    (h : ownershipForSources db sources = some (claimed, owned))
    (hexpected : owned = expected.insertionSort (· ≥ ·))
    {source : ℕ} (hsource : source ∈ claimed) : HeldExactly db expected source := by
  have hmem : ∀ original, original ∈ expected ↔
    ∃ source ∈ claimed, original ∈ ownedOriginals db source := by
    intro original
    rw [← (of_ownershipForSources h).2 original, hexpected, List.mem_insertionSort]
  intro r hr
  rw [hmem]
  constructor
  · intro howned
    exact ⟨⟨source, hsource, howned⟩, ((mem_ownedOriginals_iff hkeyed hr).mp howned).2⟩
  · rintro ⟨⟨other, -, howned⟩, -⟩
    -- an action is of one run
    obtain ⟨r', hr', hid, -⟩ := exists_of_mem_ownedOriginals howned
    obtain rfl : r' = r := hkeyed.eq_of_key_eq (List.mem_filter.mp hr').1
      (List.mem_filter.mp hr).1 hid
    have hbundle : r'.bundle = some other ∧ r'.bundle = some source := by
      obtain ⟨-, hother⟩ := List.mem_filter.mp hr'
      obtain ⟨-, hthis⟩ := List.mem_filter.mp hr
      simp only [Bool.and_eq_true, decide_eq_true_eq] at hother hthis
      exact ⟨hother.1, hthis.1⟩
    obtain rfl : other = source := Option.some.inj (hbundle.1.symm.trans hbundle.2)
    exact howned

/-- A run that may still act is not recovered. -/
theorem not_recoverable_of_active {row : BundleRow} (hrow : db.bundle row.id = some row)
    (hactive : row.state.active = true) : recoverable db row.id = false := by
  rw [recoverable, sourceProof, hrow]
  simp [activationCoverage, hactive]

end Claim

/-! ### The associations -/

/-- A row of a bundle without the phase, which is all that changes of it. -/
def ManualRow.core (row : ManualRow) : ManualRow := { row with phase := none }

/-- What was inserted. -/
def System.inserted (s : System) : List ManualRow := s.manual.map ManualRow.core

/-- A bundle that a call inserted. -/
def Own (rows : List ManualRow) (bundle : ℕ) : Prop := ∃ row ∈ rows, row.id = bundle

/-- The invariant of the bundles and of the associations. -/
structure Stored (db : Db) (next : ℕ) (rows : List ManualRow) : Prop where
  inv : AttemptInv db
  reroutes : Keyed RerouteRow.id db.reroutes
  bundles : ∀ b ∈ db.bundles, b.id < next
  children : ∀ m ∈ db.attempts, m.child < next
  keyed : Keyed ManualRow.id rows
  below : ∀ row ∈ rows, row.id < next
  minted : ∀ m ∈ db.attempts, Own rows m.child → m.token.isLegacy = false
  held : ∀ row ∈ rows, ∀ m ∈ db.attempts, m.child = row.id → ∀ b ∈ db.bundles, b.id = m.source →
    b.claim = some m.token → HeldExactly db row.run.originals m.source

/-- What a step that inserts no bundle of a call leaves: the associations of `rows`, and what they
hold. -/
structure Kept (rows : List ManualRow) (old : Db) (next : ℕ) (db : Db) : Prop where
  inv : AttemptInv db
  reroutes : Keyed RerouteRow.id db.reroutes
  bundles : ∀ b ∈ db.bundles, b.id < next
  children : ∀ m ∈ db.attempts, m.child < next
  attempts : ∀ m ∈ db.attempts, Own rows m.child ∨ isPlanToken m.token = true →
    ∃ m' ∈ old.attempts, m'.child = m.child ∧ m'.source = m.source ∧ m'.token = m.token
  claims : ∀ m ∈ db.attempts, Own rows m.child → ∀ b ∈ db.bundles, b.id = m.source →
    b.claim = some m.token →
    ∃ b' ∈ old.bundles, b'.id = b.id ∧ b'.claim = b.claim
  held : ∀ b ∈ old.bundles, b.claim.isSome = true → ∀ held, HeldExactly old held b.id →
    HeldExactly db held b.id

section Kept

variable {db old : Db} {next next' : ℕ} {rows : List ManualRow} {s : System}

theorem Stored.kept (h : Stored old next rows) (hnext : next ≤ next')
    (hkept : Kept rows old next' db) :
    Stored db next' rows := by
  refine ⟨hkept.inv, hkept.reroutes, hkept.bundles, hkept.children, h.keyed, fun row hrow => ?_,
    fun m hm hown => ?_, fun row hrow m hm hchild b hb hid hclaim => ?_⟩
  · exact (h.below row hrow).trans_le hnext
  · obtain ⟨m', hm', hchild, -, htoken⟩ := hkept.attempts m hm (Or.inl hown)
    rw [← htoken]
    exact h.minted m' hm' (hchild ▸ hown)
  · have hown : Own rows m.child := ⟨row, hrow, hchild.symm⟩
    obtain ⟨m', hm', hchild', hsource', htoken'⟩ := hkept.attempts m hm (Or.inl hown)
    obtain ⟨b', hb', hid', hclaim'⟩ := hkept.claims m hm hown b hb hid hclaim
    have hbefore : HeldExactly old row.run.originals m'.source := by
      refine h.held row hrow m' hm' (hchild'.trans hchild) b' hb' ?_ ?_
      · rw [hid', hid, hsource']
      · rw [hclaim', hclaim, htoken']
    rw [hsource', ← hid, ← hid'] at hbefore
    rw [← hid, ← hid']
    refine hkept.held b' hb' ?_ _ hbefore
    rw [hclaim', hclaim]
    rfl

/-- Where associations, claims and actions are as they were, so is everything. -/
theorem Stored.kept_of_same (h : Stored old next rows) (hattempts : db.attempts = old.attempts)
    (hreroutes : db.reroutes = old.reroutes)
    (hbundles : db.bundles.map BundleRow.id = old.bundles.map BundleRow.id)
    (hclaims : ∀ b ∈ db.bundles, b.claim.isSome = true → ∃ b' ∈ old.bundles, b'.id = b.id ∧
      b'.claim = b.claim) :
    Kept rows old next db := by
  refine ⟨h.inv.congr hattempts ?_, hreroutes ▸ h.reroutes, fun b hb => ?_, hattempts ▸ h.children,
    fun m hm _ => ⟨m, hattempts ▸ hm, rfl, rfl, rfl⟩, fun m hm _ b hb _ hclaim => ?_,
    fun b _ _ held hheld => hheld.congr hreroutes⟩
  · rw [Keyed, hbundles]
    exact h.inv.keyed
  · have hid : b.id ∈ old.bundles.map BundleRow.id := hbundles ▸ List.mem_map_of_mem hb
    obtain ⟨b', hb', hid'⟩ := List.mem_map.mp hid
    rw [← hid']
    exact h.bundles b' hb'
  · exact hclaims b hb (by rw [hclaim]; rfl)

theorem finalize_kept (h : Stored old next rows) (child : ℕ) (terminal : BundleState)
    (owner : OwnerToken) :
    Kept rows old next (recoveryStep old (.finalize child terminal owner)) := by
  rcases recoveryStep_finalize old child terminal owner with hstep | ⟨row, -, -, -, -, hstep⟩
  · rw [hstep]
    exact h.kept_of_same rfl rfl rfl fun b hb _ => ⟨b, hb, rfl, rfl⟩
  rw [hstep]
  have hattempts : ∀ m ∈ (settled old row terminal owner).attempts,
      ∃ m' ∈ old.attempts, m'.child = m.child ∧ m'.source = m.source ∧ m'.token = m.token := by
    intro m hm
    rw [settled_attempts] at hm
    obtain ⟨a, ha, rfl⟩ := List.mem_map.mp hm
    have hsame : ((settlements old row terminal).foldl (settleAttempt row.id) a).child = a.child ∧
      _ :=
      foldl_settleAttempt_child a
    exact ⟨a, ha, hsame.1.symm, hsame.2.1.symm, hsame.2.2.symm⟩
  have hclaim : ∀ b : BundleRow, ∀ V : List (AttemptRow × Settlement),
      (V.foldl settleRow b).claim = b.claim ∨ (V.foldl settleRow b).claim = none := by
    intro b V
    induction V generalizing b with
    | nil => exact Or.inl rfl
    | cons v V ih =>
      have hv : (settleRow b v).claim = b.claim ∨ (settleRow b v).claim = none := by
        rw [settleRow]
        split
        · rcases v.2 with _ | _ | _ | _
          · exact Or.inl rfl
          · exact Or.inr rfl
          · exact Or.inr rfl
          · exact Or.inl rfl
        · exact Or.inl rfl
      rcases ih (settleRow b v) with hsame | hnone
      · exact hv.imp hsame.trans hsame.trans
      · exact Or.inr hnone
  refine ⟨settled_inv h.inv, ?_, fun b hb => ?_, fun m hm => ?_, fun m hm _ => hattempts m hm,
    fun m hm hown b hb _ htaken => ?_, fun b _ _ held hheld => hheld.congr settled_reroutes⟩
  · rw [settled_reroutes]
    exact h.reroutes
  · rw [settled_bundles] at hb
    obtain ⟨a, ha, rfl⟩ := List.mem_map.mp hb
    simpa using h.bundles a ha
  · obtain ⟨m', hm', hchild, -, -⟩ := hattempts m hm
    exact hchild ▸ h.children m' hm'
  · rw [settled_bundles] at hb
    obtain ⟨a, ha, rfl⟩ := List.mem_map.mp hb
    have hclose : ∀ c : BundleRow, (closeRow row.id (endState old row terminal) c).claim =
      c.claim := by
      intro c
      rw [closeRow]
      split <;> rfl
    refine ⟨a, ha, by simp, ?_⟩
    rw [hclose] at htaken ⊢
    rcases hclaim (adoptRow old row.id a) (settlements old row terminal) with hsame | hnone
    · rw [hsame] at htaken ⊢
      rw [adoptRow] at htaken ⊢
      split
      · -- a claim that is adopted is a legacy one, and no call has one
        rename_i hadopt
        rw [if_pos hadopt] at htaken
        obtain ⟨l, hl⟩ := Option.isSome_iff_exists.mp (Bool.and_eq_true_iff.mp hadopt).2
        have hlegacy : l.token.isLegacy = true := by
          have hfound := List.find?_some hl
          simp only [Bool.and_eq_true] at hfound
          exact hfound.2
        have htoken : m.token = l.token := by
          simp only [BundleRow.adopt, hl, Option.map_some, Option.some.injEq] at htaken
          exact htaken.symm
        obtain ⟨m', hm', hchild', -, htoken'⟩ := hattempts m hm
        have hminted := h.minted m' hm' (hchild' ▸ hown)
        rw [htoken', htoken, hlegacy] at hminted
        cases hminted
      · rfl
    · rw [hnone] at htaken
      cases htaken

/-- **The rest of the program** leaves the associations of the calls. -/
theorem foreign_kept (h : Stored s.db s.nextBundle s.inserted) {e : RecoveryEvent} {counter : ℕ}
    (hforeign : foreign s counter e = true) :
    Kept s.inserted s.db (max s.nextBundle counter) (recoveryStep s.db e) := by
  have hmono : ∀ {db}, Kept s.inserted s.db s.nextBundle db →
      Kept s.inserted s.db (max s.nextBundle counter) db := fun hkept =>
    { hkept with
      bundles := fun b hb => (hkept.bundles b hb).trans_le (le_max_left ..)
      children := fun m hm => (hkept.children m hm).trans_le (le_max_left ..) }
  have hidle : Kept s.inserted s.db s.nextBundle s.db :=
    h.kept_of_same rfl rfl rfl fun b hb _ => ⟨b, hb, rfl, rfl⟩
  have hother : ∀ {child}, (s.manual.all fun row => decide (row.id ≠ child)) = true →
    ¬ Own s.inserted child := by
    rintro child hall ⟨row, hrow, rfl⟩
    obtain ⟨r, hr, rfl⟩ := List.mem_map.mp hrow
    simpa [ManualRow.core] using List.all_eq_true.mp hall r hr
  cases e with
  | claim child sources expected token manual =>
    simp only [foreign, Bool.and_eq_true, decide_eq_true_eq, Bool.not_eq_true'] at hforeign
    obtain ⟨⟨hchild, hall⟩, hplan⟩ := hforeign
    simp only [recoveryStep]
    split_ifs with hfresh
    · rcases hclaim : claimSourcesForChild s.db child sources expected token manual with _ | db
      · exact hmono hidle
      have hinv := (claimSourcesForChild_claimedFrom h.inv hfresh.1 hfresh.2 hclaim).inv
      obtain ⟨claimed, owned, -, -, hframe⟩ := claimSourcesForChild_spec hclaim
      refine hmono ⟨hinv, ?_, fun b hb => ?_, fun m hm => ?_, fun m hm hkind => ?_,
        fun m hm hown b hb _ htaken => ?_, fun b _ _ held hheld => hheld.congr hframe.reroutes⟩
      · rw [Option.getD_some, hframe.reroutes]
        exact h.reroutes
      · obtain ⟨b', hb', hid, -⟩ := hframe.bundles b hb
        exact hid ▸ h.bundles b' hb'
      · rcases hframe.attempts m hm with hm | ⟨rfl, -, -⟩
        · exact h.children m hm
        · exact hchild
      · rcases hframe.attempts m hm with hm | ⟨rfl, rfl, -⟩
        · exact ⟨m, hm, rfl, rfl, rfl⟩
        · rcases hkind with hown | htoken
          · exact absurd hown (hother hall)
          · rw [hplan] at htoken
            cases htoken
      · obtain ⟨b', hb', hid, hsame⟩ := hframe.bundles b hb
        rcases hsame with hsame | hnew
        · exact ⟨b', hb', hid, hsame.symm⟩
        · -- a source that is claimed now is not claimed for a bundle of a call
          have htoken : m.token = token := Option.some.inj (htaken.symm.trans hnew)
          rcases hframe.attempts m hm with hm | ⟨hm, -, -⟩
          · have hfresh' := hfresh.1
            simp only [tokenFresh, Bool.and_eq_true, List.all_eq_true, decide_eq_true_eq] at hfresh'
            rw [hfresh'.2 m hm htoken] at hown
            exact absurd hown (hother hall)
          · rw [hm] at hown
            exact absurd hown (hother hall)
    · exact hmono hidle
  | repairLegacy child source =>
    simp only [foreign, Bool.and_eq_true, decide_eq_true_eq] at hforeign
    obtain ⟨hchild, hall⟩ := hforeign
    have hinv := recoveryStep_inv s.db (.repairLegacy child source) h.inv
    simp only [recoveryStep, repairLegacyAssociation] at hinv ⊢
    split_ifs at hinv ⊢ with hsame hassociated
    · exact hmono hidle
    · exact hmono hidle
    refine hmono ⟨hinv, h.reroutes, h.bundles, fun m hm => ?_, fun m hm hkind => ?_,
      fun m _ _ b hb _ _ => ⟨b, hb, rfl, rfl⟩, fun b _ _ held hheld => hheld.congr rfl⟩
    · rcases List.mem_append.mp hm with hm | hm
      · exact h.children m hm
      · rw [List.mem_singleton.mp hm]
        exact hchild
    · rcases List.mem_append.mp hm with hm | hm
      · exact ⟨m, hm, rfl, rfl, rfl⟩
      · rw [List.mem_singleton.mp hm] at hkind
        rcases hkind with hown | htoken
        · exact absurd hown (hother hall)
        · cases htoken
  | finalize child terminal owner => exact hmono (finalize_kept h child terminal owner)
  | elsewhere db =>
    simp only [foreign, Bool.and_eq_true, decide_eq_true_eq, List.all_eq_true] at hforeign
    obtain ⟨⟨horiginals, hcounter⟩, hbelow⟩ := hforeign
    have hinv := recoveryStep_inv s.db (.elsewhere db) h.inv
    simp only [recoveryStep] at hinv ⊢
    split_ifs at hinv ⊢ with hkeeps
    swap
    · exact hmono hidle
    simp only [keepsClaims, Bool.and_eq_true, decide_eq_true_eq, List.all_eq_true] at hkeeps
    obtain ⟨⟨⟨hattempts, -⟩, htaken⟩, hnew⟩ := hkeeps
    simp only [keepsOriginals, Bool.and_eq_true, decide_eq_true_eq, List.all_eq_true,
      Bool.or_eq_true, Bool.not_eq_true'] at horiginals
    obtain ⟨hkeyed, hclaimed⟩ := horiginals
    refine ⟨hinv, hkeyed, fun b hb => (hbelow b hb).trans_le (le_max_right ..), fun m hm => ?_,
      fun m hm _ => ⟨m, hattempts ▸ hm, rfl, rfl, rfl⟩, fun m _ _ b hb _ hclaim => ?_,
      fun b hb hsome held hheld => ?_⟩
    · rw [hattempts] at hm
      exact (h.children m hm).trans_le (le_max_left ..)
    · -- a bundle that is new is claimed by nobody
      rw [← List.take_append_drop s.db.bundles.length db.bundles] at hb
      rcases List.mem_append.mp hb with hold | hold
      · have hpair : (b.id, b.claim) ∈ s.db.bundles.map fun b => (b.id, b.claim) := by
          rw [← htaken, ← List.map_take]
          exact List.mem_map.mpr ⟨b, hold, rfl⟩
        obtain ⟨b', hb', hsame⟩ := List.mem_map.mp hpair
        obtain ⟨hid, hclaim'⟩ := Prod.mk.inj hsame
        exact ⟨b', hb', hid, hclaim'⟩
      · have hnone := hnew b hold
        rw [hclaim] at hnone
        cases hnone
    · rcases hclaimed b hb with hnone | ⟨hsame, hinverted⟩
      · rw [Option.isNone_iff_eq_none.mp hnone] at hsome
        cases hsome
      · refine hheld.kept h.reroutes hkeyed hsame fun r hr hinv => ?_
        rcases hinverted r hr with hnot | hnow
        · rw [hinv] at hnot
          cases hnot
        · exact hnow

theorem unclaim_kept (h : Stored old next rows) (source : ℕ) :
    Kept rows old next (old.updateBundle source (fun _ => true) fun b =>
      { b with claim := none }) := by
  refine h.kept_of_same rfl rfl (map_key_update fun _ => rfl) fun b hb hsome => ?_
  obtain ⟨a, ha, rfl⟩ := mem_update.mp hb
  split at hsome
  · cases hsome
  · rename_i hp
    exact ⟨a, ha, by rw [if_neg hp], by rw [if_neg hp]⟩

theorem failAccepted_kept (h : Stored old next rows) (bundle plan : ℕ) :
    Kept rows old next (failAccepted old bundle plan) := by
  rw [failAccepted]
  split_ifs
  · exact finalize_kept h bundle .failed (.plan plan)
  · refine h.kept_of_same rfl rfl (map_key_update fun _ => rfl) fun b hb _ => ?_
    obtain ⟨a, ha, rfl⟩ := mem_update.mp hb
    refine ⟨a, ha, ?_, ?_⟩ <;> split <;> rfl

end Kept

/-! ### A bundle of a call -/

section Commit

variable {s t : System} {call n : ℕ} {request : Request} {run : NewRun} {db : Db}

/-- The spec of a commit. -/
theorem commit_eq_some (h : commit s call request run n = some t) :
    ∃ db, claimOriginals (s.db.addBundle (insertedBundle s.nextBundle s.outside.now request run))
      s.nextBundle run
        (request.claimToken n) = some db ∧
      t = { s with
            db
            plans := recordPlan s.plans request s.nextBundle
            manual := s.manual ++ [⟨s.nextBundle, run, run.phase, call, request⟩]
            nextBundle := s.nextBundle + 1 } := by
  obtain ⟨db, hclaim, ht⟩ := Option.map_eq_some_iff.mp h
  exact ⟨db, hclaim, ht.symm⟩

theorem claimToken_not_legacy (request : Request) (n : ℕ) :
    (request.claimToken n).isLegacy = false := by
  rw [Request.claimToken]
  split <;> rfl

/-- The row of a bundle that is inserted. -/
def newRow (s : System) (call : ℕ) (request : Request) (run : NewRun) : ManualRow :=
  ⟨s.nextBundle, run, none, call, request⟩

/-- The tables after the insertion, before the claim. -/
theorem Stored.addBundle (h : Stored s.db s.nextBundle s.inserted) {row : BundleRow}
    (hid : row.id = s.nextBundle)
    (hclaim : row.claim = none) : Stored (s.db.addBundle row) (s.nextBundle + 1) s.inserted := by
  refine h.kept (Nat.le_succ _) ?_
  have hkeyed : Keyed BundleRow.id (s.db.addBundle row).bundles :=
    h.inv.keyed.append fun b hb => by
      rw [hid]
      exact (h.bundles b hb).ne
  refine ⟨h.inv.congr rfl hkeyed, h.reroutes, fun b hb => ?_,
    fun m hm => (h.children m hm).trans (Nat.lt_succ_self _), fun m hm _ => ⟨m, hm, rfl, rfl, rfl⟩,
    fun m _ _ b hb _ htaken => ?_, fun b _ _ held hheld => hheld.congr rfl⟩
  · rcases List.mem_append.mp hb with hb | hb
    · exact (h.bundles b hb).trans (Nat.lt_succ_self _)
    · rw [List.mem_singleton.mp hb, hid]
      exact Nat.lt_succ_self _
  · rcases List.mem_append.mp hb with hb | hb
    · exact ⟨b, hb, rfl, rfl⟩
    · rw [List.mem_singleton.mp hb, hclaim] at htaken
      cases htaken

/-- **A bundle of a call** holds its sources, under a token that is its own, for what they own. -/
theorem Stored.commit (h : Stored s.db s.nextBundle s.inserted)
    (hunused : ∀ m ∈ s.db.attempts, m.token ≠ request.claimToken n)
    (hcommit : commit s call request run n = some t) :
    Stored t.db t.nextBundle (s.inserted ++ [newRow s call request run]) ∧
      ∀ m ∈ t.db.attempts, m ∈ s.db.attempts ∨ m.token = request.claimToken n := by
  obtain ⟨db, hclaim, rfl⟩ := commit_eq_some hcommit
  obtain ⟨row, hrow⟩ : ∃ row, row = insertedBundle s.nextBundle s.outside.now request run :=
    ⟨_, rfl⟩
  have hid : row.id = s.nextBundle := by rw [hrow]; rfl
  have hadded : Stored (s.db.addBundle row) (s.nextBundle + 1) s.inserted :=
    h.addBundle hid (by rw [hrow]; rfl)
  have hfresh : ∀ m ∈ s.db.attempts, m.child ≠ s.nextBundle := fun m hm => (h.children m hm).ne
  have hkeyed : Keyed ManualRow.id (s.inserted ++ [newRow s call request run]) :=
    h.keyed.append fun r hr => (h.below r hr).ne
  have hbelow : ∀ r ∈ s.inserted ++ [newRow s call request run], r.id < s.nextBundle + 1 := by
    intro r hr
    rcases List.mem_append.mp hr with hr | hr
    · exact hadded.below r hr
    · rw [List.mem_singleton.mp hr]
      exact Nat.lt_succ_self _
  have hown : ∀ {c}, Own (s.inserted ++ [newRow s call request run]) c → Own s.inserted c ∨
    c = s.nextBundle := by
    rintro c ⟨r, hr, rfl⟩
    rcases List.mem_append.mp hr with hr | hr
    · exact Or.inl ⟨r, hr, rfl⟩
    · rw [List.mem_singleton.mp hr]
      exact Or.inr rfl
  rw [← hrow] at hclaim
  rw [claimOriginals] at hclaim
  split_ifs at hclaim
  · -- nothing is claimed
    obtain rfl := Option.some.inj hclaim
    refine ⟨⟨hadded.inv, hadded.reroutes, hadded.bundles, hadded.children, hkeyed, hbelow,
      fun m hm ho => ?_, fun r hr m hm hchild => ?_⟩, fun m hm => Or.inl hm⟩
    · rcases hown ho with ho | ho
      · exact h.minted m hm ho
      · exact absurd ho (hfresh m hm)
    · rcases List.mem_append.mp hr with hr | hr
      · exact hadded.held r hr m hm hchild
      · rw [List.mem_singleton.mp hr] at hchild
        exact absurd hchild (hfresh m hm)
  · have hminted := claimToken_not_legacy request n
    have htokenFresh : tokenFresh (s.db.addBundle row) s.nextBundle (request.claimToken n) =
      true := by
      simp only [tokenFresh, hminted, Bool.not_false, Bool.true_and, List.all_eq_true,
        decide_eq_true_eq]
      exact fun m hm htoken => absurd htoken (hunused m hm)
    obtain ⟨claimed, owned, howned, hexpected, hframe⟩ := claimSourcesForChild_spec hclaim
    have hself : s.nextBundle ∉ run.sources := fun hmem => by
      -- the new bundle is on its way
      have hbundle : (s.db.addBundle row).bundle row.id = some row :=
        find_eq_some hadded.inv.keyed (by simp [Db.addBundle])
      have hactive := not_recoverable_of_active hbundle (by rw [hrow]; rfl)
      rw [hid, (of_ownershipForSources howned).1 _ hmem] at hactive
      cases hactive
    have hclaimedFrom := claimSourcesForChild_claimedFrom hadded.inv htokenFresh hself hclaim
    refine ⟨⟨hclaimedFrom.inv, ?_, fun b hb => ?_, fun m hm => ?_, hkeyed, hbelow,
      fun m hm ho => ?_, fun r hr m hm hchild b hb hsource htaken => ?_⟩,
      fun m hm => (hframe.attempts m hm).imp id fun hnew => hnew.2.1⟩
    · rw [Keyed, hframe.reroutes]
      exact hadded.reroutes
    · obtain ⟨b', hb', hid', -⟩ := hframe.bundles b hb
      exact hid' ▸ hadded.bundles b' hb'
    · rcases hframe.attempts m hm with hm | ⟨hm, -, -⟩
      · exact hadded.children m hm
      · rw [hm]
        exact Nat.lt_succ_self _
    · rcases hframe.attempts m hm with hm | ⟨-, htoken, -⟩
      · rcases hown ho with ho | ho
        · exact h.minted m hm ho
        · exact absurd ho (hfresh m hm)
      · rw [htoken]
        exact hminted
    · refine HeldExactly.congr ?_ hframe.reroutes
      obtain ⟨b', hb', hid', hsame⟩ := hframe.bundles b hb
      rcases hframe.attempts m hm with hm | ⟨hm, -, hin⟩
      · -- an association of before
        rcases List.mem_append.mp hr with hr | hr
        · rcases hsame with hsame | hnew
          · exact hadded.held r hr m hm hchild b' hb' (hid'.trans hsource) (hsame.symm.trans htaken)
          · exact absurd (Option.some.inj (htaken.symm.trans hnew)) (hunused m hm)
        · rw [List.mem_singleton.mp hr] at hchild
          exact absurd hchild (hfresh m hm)
      · have hrun : r.run = run := by
          rcases List.mem_append.mp hr with hr | hr
          · exact absurd (hchild.symm.trans hm) (h.below r hr).ne
          · rw [List.mem_singleton.mp hr]
            rfl
        rw [hrun]
        exact claimed_heldExactly hadded.reroutes howned hexpected hin

end Commit

/-! ### What was inserted -/

/-- What was inserted, and for which request. -/
structure Recorded (db : Db) (plans : List PlanRow) (rows : List ManualRow) : Prop where
  keyed : Keyed PlanRow.id plans
  consumed : ∀ row ∈ rows, ∀ id, row.request.plan = some id →
    ∃ plan ∈ plans, plan.id = id ∧ plan.consumed = true ∧ plan.bundle = some row.id
  tokens : ∀ m ∈ db.attempts, ∀ id, m.token = planToken id → ∃ plan ∈ plans, plan.id = id ∧
    plan.consumed = true
  key : ∀ row ∈ rows, ∀ key, row.request.applyKey = some key →
    row.run.actor = key.1 ∧ row.run.requestId = some key.2
  single : ∀ row ∈ rows, ∀ row' ∈ rows, ∀ key, row.request.applyKey = some key →
    row'.request.applyKey = some key →
    row = row'

/-- What a call has read is still so: its bundle is not there. -/
structure Fresh (plans : List PlanRow) (rows : List ManualRow) (request : Request)
    (run : NewRun) : Prop where
  plan : ∀ id, request.plan = some id → ∃ plan ∈ plans, plan.id = id ∧ plan.consumed = false
  key : ∀ key, request.applyKey = some key → run.actor = key.1 ∧ run.requestId = some key.2 ∧
    ∀ row ∈ rows, row.run.actor = key.1 → row.run.requestId ≠ some key.2

section Record

variable {db old : Db} {plans : List PlanRow} {rows : List ManualRow} {s t : System}
  {request : Request} {run : NewRun} {d : Digests} {call n : ℕ}

theorem isPlanToken_planToken (id : ℕ) : isPlanToken (planToken id) = true := by
  simp [isPlanToken, planToken]

theorem planToken_injective {id id' : ℕ} (h : planToken id = planToken id') : id = id' := by
  have h := ClaimToken.minted.inj h
  omega

theorem Recorded.kept {next : ℕ} (h : Recorded old plans rows) (hkept : Kept rows old next db) :
    Recorded db plans rows := by
  refine { h with tokens := fun m hm id htoken => ?_ }
  obtain ⟨m', hm', -, -, htoken'⟩ :=
    hkept.attempts m hm (Or.inr (by rw [htoken]; exact isPlanToken_planToken id))
  exact h.tokens m' hm' id (htoken'.trans htoken)

theorem newest_eq_none {ids : List ℕ} : newest ids = none ↔ ids = [] := by
  rw [newest, List.max?_eq_none_iff]

/-- **A call that found no bundle** of its request: there is none. -/
theorem fresh_of_read (h : request.read d s = .fresh run) :
    Fresh s.plans s.inserted request run := by
  cases request with
  | acceptPlan r =>
    refine ⟨fun id hid => ?_, nofun⟩
    obtain rfl : r.plan = id := Option.some.inj hid
    simp only [Request.read, AcceptPlan.read] at h
    rcases hplan : find PlanRow.id r.plan s.plans with _ | row
    · simp [hplan] at h
    obtain ⟨hmem, hid⟩ := mem_of_find hplan
    refine ⟨row, hmem, hid, Bool.eq_false_iff.mpr fun hconsumed => ?_⟩
    simp only [hplan, if_pos hconsumed] at h
    rcases hbundle : row.bundle with _ | bundle <;> simp only [hbundle] at h <;> split_ifs at h
  | directApply r =>
    refine ⟨nofun, fun key hkey => ?_⟩
    obtain rfl : (r.actor, r.requestId) = key := Option.some.inj hkey
    simp only [Request.read, DirectApply.read] at h
    rcases hnewest : newest ((withRequestId s r.actor r.requestId).map ManualRow.id) with _ | bundle
    -- a bundle of the request is answered with itself, never with a fresh run
    swap
    · simp [hnewest] at h
    have hnone := List.map_eq_nil_iff.mp (newest_eq_none.mp hnewest)
    simp only [hnewest] at h
    have hrun : run.actor = r.actor ∧ run.requestId = some r.requestId := by
      rcases hactive : (r.source.presetId <|> r.source.ruleId).bind (activeRun s r.source)
        with _ | bundle <;>
        simp only [hactive] at h <;> split_ifs at h
      obtain rfl := Decision.fresh.inj h
      exact ⟨rfl, rfl⟩
    refine ⟨hrun.1, hrun.2, fun row hrow hactor hid => ?_⟩
    obtain ⟨a, ha, rfl⟩ := List.mem_map.mp hrow
    refine List.filter_eq_nil_iff.mp hnone a ha ?_
    simp only [ManualRow.core] at hactor hid
    simp [hactor, hid]
  | directRecovery r => exact ⟨nofun, nofun⟩

/-- A token that a call claims with is not in use. -/
theorem Recorded.unused (h : Recorded s.db s.plans rows) (hfresh : Fresh s.plans rows request run)
    (hrandom : ∀ m ∈ s.db.attempts, m.token ≠ directToken n) :
    ∀ m ∈ s.db.attempts, m.token ≠ request.claimToken n := by
  intro m hm
  rw [Request.claimToken]
  rcases hplan : request.plan with _ | id
  · exact hrandom m hm
  · intro htoken
    obtain ⟨plan, hplan', hid, hconsumed⟩ := h.tokens m hm id htoken
    obtain ⟨plan', hplan'', hid', hopen⟩ := hfresh.plan id hplan
    rw [h.keyed.eq_of_key_eq hplan' hplan'' (hid.trans hid'.symm), hopen] at hconsumed
    cases hconsumed

/-- A plan that is consumed stays so. -/
theorem mem_recordPlan {bundle : ℕ} {plan : PlanRow} (hplan : plan ∈ plans)
    (hconsumed : plan.consumed = true) :
    plan ∈ recordPlan plans request bundle := by
  rw [recordPlan]
  split
  · exact mem_update.mpr ⟨plan, hplan, if_neg (by simp [hconsumed])⟩
  · exact hplan

/-- The plan of a call is consumed by it. -/
theorem Fresh.exists_recordPlan (h : Fresh plans rows request run) (bundle : ℕ) {id : ℕ}
    (hid : request.plan = some id) :
    ∃ plan ∈ recordPlan plans request bundle, plan.id = id ∧ plan.consumed = true ∧
      plan.bundle = some bundle := by
  obtain ⟨plan, hplan, hplanId, hopen⟩ := h.plan id hid
  refine ⟨{ plan with consumed := true, bundle := some bundle }, ?_, hplanId, rfl, rfl⟩
  rw [recordPlan, hid]
  exact mem_update.mpr ⟨plan, hplan, if_pos (by simp [hplanId, hopen])⟩

theorem keyed_recordPlan (h : Keyed PlanRow.id plans) (bundle : ℕ) :
    Keyed PlanRow.id (recordPlan plans request bundle) := by
  rw [recordPlan]
  split
  · exact h.update fun _ => rfl
  · exact h

/-- **What is inserted is on record**: the plan with its bundle, the request with its id. -/
theorem Recorded.commit (h : Recorded s.db s.plans s.inserted)
    (hfresh : Fresh s.plans s.inserted request run) (hcommit : commit s call request run n = some t)
    (hattempts : ∀ m ∈ t.db.attempts, m ∈ s.db.attempts ∨ m.token = request.claimToken n) :
    Recorded t.db t.plans (s.inserted ++ [newRow s call request run]) := by
  obtain ⟨db, -, rfl⟩ := commit_eq_some hcommit
  dsimp only at hattempts ⊢
  refine ⟨?_, fun row hrow id hid => ?_, fun m hm id htoken => ?_, fun row hrow key hkey => ?_,
    fun row hrow row' hrow' key hkey hkey' => ?_⟩
  · exact keyed_recordPlan h.keyed _
  · rcases List.mem_append.mp hrow with hrow | hrow
    · obtain ⟨plan, hplan, hplanId, hconsumed, hbundle⟩ := h.consumed row hrow id hid
      exact ⟨plan, mem_recordPlan hplan hconsumed, hplanId, hconsumed, hbundle⟩
    · rw [List.mem_singleton.mp hrow] at hid ⊢
      exact hfresh.exists_recordPlan s.nextBundle hid
  · rcases hattempts m hm with hm | hnew
    · obtain ⟨plan, hplan, hplanId, hconsumed⟩ := h.tokens m hm id htoken
      exact ⟨plan, mem_recordPlan hplan hconsumed, hplanId, hconsumed⟩
    · rw [htoken, Request.claimToken] at hnew
      rcases hplan : request.plan with _ | id'
      · rw [hplan] at hnew
        have hparity := ClaimToken.minted.inj hnew
        omega
      · rw [hplan] at hnew
        obtain rfl := planToken_injective hnew
        obtain ⟨plan, hmem, hplanId, hconsumed, -⟩ := hfresh.exists_recordPlan s.nextBundle hplan
        exact ⟨plan, hmem, hplanId, hconsumed⟩
  · rcases List.mem_append.mp hrow with hrow | hrow
    · exact h.key row hrow key hkey
    · rw [List.mem_singleton.mp hrow] at hkey ⊢
      obtain ⟨hactor, hid, -⟩ := hfresh.key key hkey
      exact ⟨hactor, hid⟩
  · -- two rows of one request id: one of them would have been found
    have hfound : ∀ row ∈ s.inserted, row.request.applyKey = some key →
      request.applyKey = some key → False := by
      intro row hrow hkey hkey'
      obtain ⟨hactor, hid⟩ := h.key row hrow key hkey
      exact (hfresh.key key hkey').2.2 row hrow hactor hid
    rcases List.mem_append.mp hrow with hrow | hrow <;> rcases List.mem_append.mp hrow'
      with hrow' | hrow'
    · exact h.single row hrow row' hrow' key hkey hkey'
    · rw [List.mem_singleton.mp hrow'] at hkey'
      exact absurd hkey' fun hkey' => hfound row hrow hkey hkey'
    · rw [List.mem_singleton.mp hrow] at hkey
      exact absurd hkey fun hkey => hfound row' hrow' hkey' hkey
    · rw [List.mem_singleton.mp hrow, List.mem_singleton.mp hrow']

end Record

/-! ### Calls and workers -/

/-- The bundle that a call inserted and that no worker was started for yet. -/
def Phase.unstarted : Phase → Option ℕ
  | committed bundle => some bundle
  | leaving ⟨bundle, false⟩ | returned ⟨bundle, false⟩ => some bundle
  | _ => none

/-- The invariant of the calls and of the workers. -/
structure Tended (s : System) : Prop where
  fence : ∀ id c, s.calls id = some c → c.phase.holdsFence = true → s.fence = some id
  checked : ∀ id c run, s.calls id = some c → c.phase = .checked run →
    Fresh s.plans s.inserted c.request run
  unstarted : ∀ id c bundle, s.calls id = some c → c.phase.unstarted = some bundle →
    (∃ row ∈ s.inserted, row.id = bundle ∧ row.creator = id) ∧ ∀ w ∈ s.workers, w.bundle ≠ bundle
  workers : ∀ w ∈ s.workers, ∃ row ∈ s.inserted, row.id = w.bundle ∧ row.creator = w.call
  single : (s.workers.map Worker.bundle).Nodup

section Calls

variable {s t : System} {id : ℕ} {c : Call}

/-- **One call moves on**, and nothing is inserted, and no worker started. -/
theorem Tended.move (h : Tended s) (id : ℕ) (c : Call) (phase : Phase)
    (hcalls : t.calls = Function.update s.calls id (some { c with phase }))
    (hplans : t.plans = s.plans) (hmanual : t.manual = s.manual) (hworkers : t.workers = s.workers)
    (hfence : ∀ other, other ≠ id → s.fence = some other → t.fence = some other)
    (hself : phase.holdsFence = true → t.fence = some id)
    (hchecked : ∀ run, phase = .checked run → Fresh s.plans s.inserted c.request run)
    (hunstarted : ∀ bundle, phase.unstarted = some bundle →
      (∃ row ∈ s.inserted, row.id = bundle ∧ row.creator = id) ∧
      ∀ w ∈ s.workers, w.bundle ≠ bundle) : Tended t := by
  have hinserted : t.inserted = s.inserted := by rw [System.inserted, hmanual]; rfl
  -- the other calls stand where they stood
  have hcall : ∀ {other c'}, t.calls other = some c' →
      other = id ∧ c' = { c with phase } ∨ other ≠ id ∧ s.calls other = some c' := by
    intro other c' hc'
    rw [hcalls, Function.update_apply] at hc'
    split at hc'
    · rename_i hid
      exact Or.inl ⟨hid, (Option.some.inj hc').symm⟩
    · rename_i hne
      exact Or.inr ⟨hne, hc'⟩
  refine ⟨fun other c' hc' hholds => ?_, fun other c' run hc' hphase => ?_,
    fun other c' bundle hc' hphase => ?_, ?_, ?_⟩
  · rcases hcall hc' with ⟨rfl, rfl⟩ | ⟨hne, hold⟩
    · exact hself hholds
    · exact hfence other hne (h.fence other c' hold hholds)
  · rw [hplans, hinserted]
    rcases hcall hc' with ⟨rfl, rfl⟩ | ⟨-, hold⟩
    · exact hchecked run hphase
    · exact h.checked other c' run hold hphase
  · rw [hworkers, hinserted]
    rcases hcall hc' with ⟨rfl, rfl⟩ | ⟨-, hold⟩
    · exact hunstarted bundle hphase
    · exact h.unstarted other c' bundle hold hphase
  · rw [hworkers, hinserted]
    exact h.workers
  · rw [hworkers]
    exact h.single

/-- A call ends. -/
theorem Tended.finish (h : Tended s) (id : ℕ) (c : Call) {db : Db} :
    Tended { s.finish id c with db } := by
  refine h.move id c .done rfl rfl rfl rfl (fun other hne hfence => ?_)
    (fun h => by cases h) (fun _ h => by cases h) (fun _ h => by cases h)
  show (if s.fence = some id then none else s.fence) = some other
  rw [if_neg, hfence]
  rw [hfence]
  exact fun heq => hne (Option.some.inj heq)

/-- **A call commits**: what any other call has read is still so, as it does not hold the fence. -/
theorem Tended.commit (h : Tended s) {run : NewRun} {n : ℕ} (hc : s.calls id = some c)
    (hphase : c.phase = .checked run)
    (hkeyed : Keyed ManualRow.id (s.inserted ++ [newRow s id c.request run]))
    (hbelow : ∀ row ∈ s.inserted, row.id < s.nextBundle)
    (hcommit : commit s id c.request run n = some t) :
    Tended (t.setPhase id c (.committed s.nextBundle)) := by
  obtain ⟨db, -, rfl⟩ := commit_eq_some hcommit
  have hholds : s.fence = some id := h.fence id c hc (by rw [hphase]; rfl)
  have hinserted : (System.setPhase { s with
      db
      plans := recordPlan s.plans c.request s.nextBundle
      manual := s.manual ++ [⟨s.nextBundle, run, run.phase, id, c.request⟩]
      nextBundle := s.nextBundle + 1 } id c (.committed s.nextBundle)).inserted =
        s.inserted ++ [newRow s id c.request run] := by
    rw [System.inserted, System.inserted]
    exact List.map_append
  have hcall : ∀ {other c'}, Function.update s.calls id
    (some { c with phase := Phase.committed s.nextBundle }) other =
      some c' → other = id ∧ c' = { c with phase := .committed s.nextBundle } ∨ other ≠ id ∧
        s.calls other = some c' := by
    intro other c' hc'
    rw [Function.update_apply] at hc'
    split at hc'
    · rename_i hid
      exact Or.inl ⟨hid, (Option.some.inj hc').symm⟩
    · rename_i hne
      exact Or.inr ⟨hne, hc'⟩
  have hworker : ∀ w ∈ s.workers, ∃ row ∈ s.inserted ++ [newRow s id c.request run],
      row.id = w.bundle ∧ row.creator = w.call := by
    intro w hw
    obtain ⟨row, hrow, hid⟩ := h.workers w hw
    exact ⟨row, List.mem_append_left _ hrow, hid⟩
  refine ⟨fun other c' hc' hother => ?_, fun other c' run' hc' hother => ?_,
    fun other c' bundle hc' hother => ?_, ?_, h.single⟩
  · rcases hcall hc' with ⟨rfl, rfl⟩ | ⟨-, hold⟩
    · exact hholds
    · exact h.fence other c' hold hother
  · rcases hcall hc' with ⟨rfl, rfl⟩ | ⟨hne, hold⟩
    · cases hother
    · -- it would hold the fence
      have hfence := h.fence other c' hold (by rw [hother]; rfl)
      exact absurd (Option.some.inj (hfence.symm.trans hholds)) hne
  · rw [hinserted]
    rcases hcall hc' with ⟨rfl, rfl⟩ | ⟨-, hold⟩
    · obtain rfl := Option.some.inj hother
      refine ⟨⟨newRow s other c.request run, by simp, rfl, rfl⟩, fun w hw heq => ?_⟩
      obtain ⟨row, hrow, hid, -⟩ := h.workers w hw
      exact (hbelow row hrow).ne (hid.trans heq)
    · obtain ⟨⟨row, hrow, hrowId⟩, hnone⟩ := h.unstarted other c' bundle hold hother
      exact ⟨⟨row, List.mem_append_left _ hrow, hrowId⟩, hnone⟩
  · rw [hinserted]
    exact hworker

/-- **A worker is started** for a bundle that has none, by the call that inserted it. -/
theorem Tended.spawn (h : Tended s) {bundle : ℕ} (hkeyed : Keyed ManualRow.id s.inserted)
    (hc : s.calls id = some c) (hphase : c.phase = .returned ⟨bundle, false⟩) :
    Tended { s.setPhase id c .done with workers := s.workers ++ [⟨bundle, id, .queued⟩] } := by
  obtain ⟨hcreated, hnone⟩ := h.unstarted id c bundle hc (by rw [hphase]; rfl)
  have hcall : ∀ {other c'}, Function.update s.calls id (some { c with phase := Phase.done })
    other = some c' →
      c'.phase = .done ∨ other ≠ id ∧ s.calls other = some c' := by
    intro other c' hc'
    rw [Function.update_apply] at hc'
    split at hc'
    · exact Or.inl (by rw [← Option.some.inj hc'])
    · rename_i hne
      exact Or.inr ⟨hne, hc'⟩
  refine ⟨fun other c' hc' hholds => ?_, fun other c' run hc' hother => ?_,
    fun other c' other' hc' hother => ?_, fun w hw => ?_, ?_⟩
  · rcases hcall hc' with hdone | ⟨-, hold⟩
    · rw [hdone] at hholds
      cases hholds
    · exact h.fence other c' hold hholds
  · rcases hcall hc' with hdone | ⟨-, hold⟩
    · rw [hdone] at hother
      cases hother
    · exact h.checked other c' run hold hother
  · rcases hcall hc' with hdone | ⟨hne, hold⟩
    · rw [hdone] at hother
      cases hother
    · obtain ⟨⟨row, hrow, hid, hby⟩, hother⟩ := h.unstarted other c' other' hold hother
      refine ⟨⟨row, hrow, hid, hby⟩, fun w hw => ?_⟩
      rcases List.mem_append.mp hw with hw | hw
      · exact hother w hw
      · -- a bundle is inserted by one call
        rw [List.mem_singleton.mp hw]
        rintro rfl
        obtain ⟨row', hrow', hid', hby'⟩ := hcreated
        rw [hkeyed.eq_of_key_eq hrow hrow' (hid.trans hid'.symm)] at hby
        exact hne (hby.symm.trans hby')
  · rcases List.mem_append.mp hw with hw | hw
    · exact h.workers w hw
    · rw [List.mem_singleton.mp hw]
      exact hcreated
  · rw [List.map_append, List.nodup_append]
    refine ⟨h.single, by simp, fun b hb b' hb' => ?_⟩
    obtain ⟨w, hw, rfl⟩ := List.mem_map.mp hb
    obtain rfl := List.mem_singleton.mp hb'
    exact hnone w hw

/-- Tables that nothing here depends on, or that keep what it depends on. -/
theorem Tended.congr (h : Tended s) (hcalls : t.calls = s.calls) (hfence : t.fence = s.fence)
    (hplans : ∀ plan ∈ s.plans, plan ∈ t.plans) (hinserted : t.inserted = s.inserted)
    (hworkers : t.workers.map (fun w => (w.bundle, w.call)) = s.workers.map fun w =>
      (w.bundle, w.call)) :
    Tended t := by
  -- what a worker is doing may change, its bundle and its call may not
  have hworker : ∀ w ∈ t.workers, ∃ w' ∈ s.workers, w'.bundle = w.bundle ∧ w'.call = w.call := by
    intro w hw
    have hmem : (w.bundle, w.call) ∈ s.workers.map fun w => (w.bundle, w.call) :=
      hworkers ▸ List.mem_map_of_mem hw
    obtain ⟨w', hw', hsame⟩ := List.mem_map.mp hmem
    exact ⟨w', hw', (Prod.mk.inj hsame).1, (Prod.mk.inj hsame).2⟩
  refine ⟨fun id c hc hholds => ?_, fun id c run hc hphase => ?_, fun id c bundle hc hphase => ?_,
    fun w hw => ?_, ?_⟩
  · rw [hfence]
    exact h.fence id c (hcalls ▸ hc) hholds
  · have hfresh := h.checked id c run (hcalls ▸ hc) hphase
    rw [hinserted]
    refine ⟨fun plan hplan => ?_, hfresh.key⟩
    obtain ⟨row, hrow, hid, hopen⟩ := hfresh.plan plan hplan
    exact ⟨row, hplans row hrow, hid, hopen⟩
  · rw [hinserted]
    obtain ⟨hcreated, hnone⟩ := h.unstarted id c bundle (hcalls ▸ hc) hphase
    refine ⟨hcreated, fun w hw => ?_⟩
    obtain ⟨w', hw', hbundle, -⟩ := hworker w hw
    exact hbundle ▸ hnone w' hw'
  · rw [hinserted]
    obtain ⟨w', hw', hbundle, hcall⟩ := hworker w hw
    rw [← hbundle, ← hcall]
    exact h.workers w' hw'
  · have hbundles : t.workers.map Worker.bundle = s.workers.map Worker.bundle := by
      have h := congrArg (List.map Prod.fst) hworkers
      rw [List.map_map, List.map_map] at h
      exact h
    rw [hbundles]
    exact h.single

/-- A worker that takes its bundle up. -/
theorem takeUp_frame (s : System) (w : Worker) :
    ((s.takeUp w).db = s.db ∧ (s.takeUp w).plans = s.plans ∧
      (s.takeUp w).nextBundle = s.nextBundle) ∧
      (s.takeUp w).calls = s.calls ∧ (s.takeUp w).fence = s.fence ∧
      (s.takeUp w).inserted = s.inserted ∧
      (s.takeUp w).workers.map (fun w => (w.bundle, w.call)) = s.workers.map fun w =>
      (w.bundle, w.call) := by
  have hworkers : ∀ stage : Stage,
    (update (fun v => decide (v = w)) (fun v => { v with stage }) s.workers).map
      (fun w => (w.bundle, w.call)) = s.workers.map fun w => (w.bundle, w.call) := by
    intro stage
    rw [update, List.map_map]
    refine List.map_congr_left fun v _ => ?_
    dsimp only [Function.comp]
    split <;> rfl
  have hmanual : (update (fun r : ManualRow => decide (r.id = w.bundle))
      (fun r => { r with phase := some PreparationPhase.preparing }) s.manual).map ManualRow.core =
        s.manual.map ManualRow.core := by
    rw [update, List.map_map]
    refine List.map_congr_left fun v _ => ?_
    dsimp only [Function.comp]
    split <;> rfl
  rw [System.takeUp]
  split
  · exact ⟨⟨rfl, rfl, rfl⟩, rfl, rfl, rfl, hworkers .gone⟩
  · split
    · exact ⟨⟨rfl, rfl, rfl⟩, rfl, rfl, rfl, hworkers .running⟩
    · split
      · exact ⟨⟨rfl, rfl, rfl⟩, rfl, rfl, hmanual, hworkers .running⟩
      · exact ⟨⟨rfl, rfl, rfl⟩, rfl, rfl, rfl, hworkers .gone⟩

end Calls

/-! ### Runs -/

/-- The invariant. -/
structure Inv (s : System) : Prop where
  stored : Stored s.db s.nextBundle s.inserted
  recorded : Recorded s.db s.plans s.inserted
  tended : Tended s

section Runs

variable {s : System} {d : Digests}

/-- A step of a call that writes nothing, or only to the associations. -/
theorem Inv.of_tended {t : System} (h : Inv s) (hdb : Kept s.inserted s.db s.nextBundle t.db)
    (hnext : t.nextBundle = s.nextBundle) (hplans : t.plans = s.plans)
    (hmanual : t.manual = s.manual) (htended : Tended t) : Inv t := by
  have hinserted : t.inserted = s.inserted := by rw [System.inserted, hmanual]; rfl
  refine ⟨?_, ?_, htended⟩
  · rw [hnext, hinserted]
    exact h.stored.kept le_rfl hdb
  · rw [hplans, hinserted]
    exact h.recorded.kept hdb

theorem Inv.idle (h : Inv s) : Kept s.inserted s.db s.nextBundle s.db :=
  h.stored.kept_of_same rfl rfl rfl fun b hb _ => ⟨b, hb, rfl, rfl⟩

theorem Inv.finish (h : Inv s) (id : ℕ) (c : Call) : Inv (s.finish id c) :=
  h.of_tended h.idle rfl rfl rfl (h.tended.finish id c)

/-- **One step of a call.** -/
theorem callStep_inv (h : Inv s) {id : ℕ} {c : Call} (hc : s.calls id = some c) (e : Event) :
    Inv (callStep d s id c e) := by
  have hkeep : ∀ other, other ≠ id → s.fence = some other → s.fence = some other :=
    fun _ _ hfence => hfence
  have hholder : c.phase.holdsFence = true → s.fence = some id := h.tended.fence id c hc
  cases e with
  | acquire _ =>
    simp only [callStep]
    split_ifs with hwaiting hformed hfence
    · exact h.of_tended h.idle rfl rfl rfl
        (h.tended.move id c _ rfl rfl rfl rfl hkeep (fun h => by cases h)
        (fun _ h => by cases h) (fun _ h => by cases h))
    · refine h.of_tended h.idle rfl rfl rfl
        (h.tended.move id c _ rfl rfl rfl rfl (fun other _ hheld => ?_) (fun _ => rfl)
        (fun _ h => by cases h) (fun _ h => by cases h))
      rw [hfence] at hheld
      cases hheld
    · exact h
    · exact h
  | read _ =>
    simp only [callStep]
    split_ifs with hfenced
    · have hheld : s.fence = some id := hholder (by rw [hfenced]; rfl)
      split
      · exact h.finish id c
      · exact h.of_tended h.idle rfl rfl rfl
          (h.tended.move id c _ rfl rfl rfl rfl hkeep (fun _ => hheld)
          (fun _ h => by cases h) (fun _ h => by cases h))
      · rename_i run hread
        refine h.of_tended h.idle rfl rfl rfl
          (h.tended.move id c _ rfl rfl rfl rfl hkeep (fun _ => hheld) ?_
          (fun _ h => by cases h))
        intro run' hrun
        obtain rfl := Phase.checked.inj hrun
        exact fresh_of_read hread
    · exact h
  | commit _ random =>
    simp only [callStep]
    split
    case h_2 => exact h
    rename_i run hphase
    split_ifs with hused
    · exact h
    rcases hcommit : commit s id c.request run random with _ | t
    · exact h.finish id c
    dsimp only
    have hfresh := h.tended.checked id c run hc hphase
    have hrandom : ∀ m ∈ s.db.attempts, m.token ≠ directToken random := fun m hm htoken =>
      hused (List.any_eq_true.mpr ⟨m, hm, decide_eq_true htoken⟩)
    obtain ⟨hstored, hattempts⟩ := h.stored.commit (h.recorded.unused hfresh hrandom) hcommit
    have hinserted : (t.setPhase id c (.committed s.nextBundle)).inserted =
        s.inserted ++ [newRow s id c.request run] := by
      obtain ⟨db, -, rfl⟩ := commit_eq_some hcommit
      exact List.map_append
    refine ⟨?_, ?_, h.tended.commit hc hphase hstored.keyed h.stored.below hcommit⟩
    · rw [hinserted]
      exact hstored
    · rw [hinserted]
      have hrecorded : Recorded t.db t.plans (s.inserted ++ [newRow s id c.request run]) :=
        h.recorded.commit hfresh hcommit hattempts
      exact hrecorded
  | ledger _ ok =>
    have hcreated := h.tended.unstarted id c
    simp only [callStep]
    split
    · rename_i bundle plan hphase _
      split_ifs
      · refine h.of_tended h.idle rfl rfl rfl (h.tended.move id c _ rfl rfl rfl rfl hkeep
          (fun _ => hholder (by rw [hphase]; rfl)) (fun _ h => by cases h) fun b hb => ?_)
        exact hcreated b hc (by rw [hphase]; exact hb)
      · exact h.of_tended (failAccepted_kept h.stored bundle plan) rfl rfl rfl
          (h.tended.finish id c)
    · rename_i bundle hphase _
      refine h.of_tended h.idle rfl rfl rfl (h.tended.move id c _ rfl rfl rfl rfl hkeep
        (fun _ => hholder (by rw [hphase]; rfl)) (fun _ h => by cases h) fun b hb => ?_)
      exact hcreated b hc (by rw [hphase]; exact hb)
    · exact h
  | release _ ok =>
    simp only [callStep]
    split
    case h_2 => exact h
    rename_i admission hphase
    split_ifs
    · refine h.of_tended h.idle rfl rfl rfl
        (h.tended.move id c _ rfl rfl rfl rfl (fun other hne hheld => ?_)
        (fun h => by cases h) (fun _ h => by cases h) fun b hb => ?_)
      · rw [hholder (by rw [hphase]; rfl)] at hheld
        exact absurd (Option.some.inj hheld).symm hne
      · refine h.tended.unstarted id c b hc ?_
        rw [hphase]
        obtain ⟨bundle, alreadyAdmitted⟩ := admission
        cases alreadyAdmitted with
        | false => exact hb
        | true => cases hb
    · exact h.finish id c
  | spawn _ =>
    simp only [callStep]
    split
    case h_2 => exact h
    rename_i admission hphase
    obtain ⟨bundle, alreadyAdmitted⟩ := admission
    cases alreadyAdmitted with
    | true =>
      exact h.of_tended h.idle rfl rfl rfl
        (h.tended.move id c _ rfl rfl rfl rfl hkeep (fun h => by cases h)
        (fun _ h => by cases h) (fun _ h => by cases h))
    | false => exact h.of_tended h.idle rfl rfl rfl (h.tended.spawn h.stored.keyed hc hphase)
  | drop _ => exact h.finish id c
  | _ => exact h

/-- **One step.** -/
theorem step_inv (s : System) (e : Event) (h : Inv s) : Inv (step d s e) := by
  cases e with
  | arrive id request =>
    simp only [step]
    split_ifs
    · exact h
    · exact h.of_tended h.idle rfl rfl rfl
        (h.tended.move id ⟨request, .waiting⟩ .waiting rfl rfl rfl rfl
        (fun _ _ hfence => hfence) (fun h => by cases h) (fun _ h => by cases h)
        (fun _ h => by cases h))
  | work bundle =>
    simp only [step]
    split
    · exact h
    · rename_i w hw
      obtain ⟨⟨hdb, hplans, hnext⟩, hcalls, hfence, hinserted, hworkers⟩ := takeUp_frame s w
      refine ⟨?_, ?_, h.tended.congr hcalls hfence (fun plan hplan =>
        hplans ▸ hplan) hinserted hworkers⟩
      · rw [hdb, hnext, hinserted]
        exact h.stored
      · rw [hdb, hplans, hinserted]
        exact h.recorded
  | stop =>
    refine h.of_tended h.idle rfl rfl rfl ?_
    have hdone : ∀ {id c}, (s.calls id).map (fun c => { c with phase := Phase.done }) = some c →
      c.phase = .done := by
      intro id c hc
      obtain ⟨c', -, rfl⟩ := Option.map_eq_some_iff.mp hc
      rfl
    refine ⟨fun id c hc hholds => ?_, fun id c run hc hphase => ?_, fun id c b hc hphase => ?_,
      fun w hw => ?_, ?_⟩
    · rw [hdone hc] at hholds
      cases hholds
    · rw [hdone hc] at hphase
      cases hphase
    · rw [hdone hc] at hphase
      cases hphase
    · obtain ⟨w', hw', rfl⟩ := List.mem_map.mp hw
      exact h.tended.workers w' hw'
    · show ((s.workers.map fun w => { w with stage := Stage.gone }).map Worker.bundle).Nodup
      rw [List.map_map]
      exact h.tended.single
  | preview plan =>
    simp only [step]
    split_ifs with hthere
    · exact h
    simp only [Bool.or_eq_true, not_or, List.any_eq_true, decide_eq_true_eq, not_exists, not_and]
      at hthere
    have hkeep : ∀ p ∈ s.plans, p ∈ s.plans ++ [plan] := fun p hp => List.mem_append_left _ hp
    refine ⟨h.stored, ⟨h.recorded.keyed.append hthere.2, fun row hrow id hid => ?_,
      fun m hm id htoken => ?_, h.recorded.key, h.recorded.single⟩,
      h.tended.congr rfl rfl hkeep rfl rfl⟩
    · obtain ⟨p, hp, hall⟩ := h.recorded.consumed row hrow id hid
      exact ⟨p, hkeep p hp, hall⟩
    · obtain ⟨p, hp, hall⟩ := h.recorded.tokens m hm id htoken
      exact ⟨p, hkeep p hp, hall⟩
  | outside o => exact ⟨h.stored, h.recorded, h.tended.congr rfl rfl (fun _ hp => hp) rfl rfl⟩
  | unclaim source =>
    exact h.of_tended (unclaim_kept h.stored source) rfl rfl rfl
      (h.tended.congr rfl rfl (fun _ hp => hp) rfl rfl)
  | elsewhere e counter =>
    simp only [step]
    split_ifs with hforeign
    · have hkept := foreign_kept h.stored hforeign
      exact ⟨h.stored.kept (le_max_left ..) hkept, h.recorded.kept hkept,
        h.tended.congr rfl rfl (fun _ hp => hp) rfl rfl⟩
    · exact h
  | _ =>
    -- an event of a call, which is there or is not
    simp only [step, Event.call]
    split
    · exact h
    · rename_i hc
      exact callStep_inv h hc _

theorem inv_empty : Inv {} := by
  have hnone : ∀ {R : Type} {P : R → Prop}, ∀ r ∈ ([] : List R), P r := fun r hr => by cases hr
  refine ⟨⟨attemptInv_empty, List.nodup_nil, hnone, hnone, List.nodup_nil, hnone, hnone, hnone⟩,
    ⟨List.nodup_nil, hnone, hnone, hnone, hnone⟩, ?_, ?_, ?_, hnone, List.nodup_nil⟩
  · rintro id c hc
    cases hc
  · rintro id c run hc
    cases hc
  · rintro id c bundle hc
    cases hc

/-- A source is held by the child that its token names. -/
theorem holder_unique {db : Db} (hinv : AttemptInv db) {child child' source : ℕ}
    (h : HoldsClaim db child source) (h' : HoldsClaim db child' source) : child = child' := by
  obtain ⟨m, hm, rfl, -, -, b, hb, hid, hclaim⟩ := h
  obtain ⟨m', hm', rfl, -, -, b', hb', hid', hclaim'⟩ := h'
  rw [hinv.keyed.eq_of_key_eq hb' hb (hid'.trans hid.symm)] at hclaim'
  exact hinv.token m hm m' hm' (Option.some.inj (hclaim.symm.trans hclaim'))

theorem Inv.exactlyOnce (h : Inv s) : ExactlyOnce s := by
  have hcore : ∀ {row}, row ∈ s.manual → row.core ∈ s.inserted :=
    fun hrow => List.mem_map_of_mem hrow
  -- a bundle is known by its id, so the two bundles of a plan or a request are one
  have hsame : ∀ {row row' : ManualRow}, row ∈ s.manual → row' ∈ s.manual → row.id = row'.id →
    row = row' := by
    intro row row' hrow hrow' hid
    have hkeyed : Keyed ManualRow.id s.manual := by
      have h := h.stored.keyed
      rw [Keyed, System.inserted, List.map_map] at h
      exact h
    exact hkeyed.eq_of_key_eq hrow hrow' hid
  refine ⟨fun row hrow row' hrow' plan hplan hplan' => ?_,
    fun row hrow row' hrow' key hkey hkey' => ?_, fun child child' source =>
    holder_unique h.stored.inv, fun row hrow source hholds original => ?_, h.tended.single,
    fun w hw => ?_⟩
  · obtain ⟨p, hp, hid, -, hbundle⟩ := h.recorded.consumed row.core (hcore hrow) plan hplan
    obtain ⟨p', hp', hid', -, hbundle'⟩ := h.recorded.consumed row'.core (hcore hrow') plan hplan'
    rw [h.recorded.keyed.eq_of_key_eq hp' hp (hid'.trans hid.symm)] at hbundle'
    exact hsame hrow hrow' (Option.some.inj (hbundle.symm.trans hbundle'))
  · have heq := h.recorded.single row.core (hcore hrow) row'.core (hcore hrow') key hkey hkey'
    exact hsame hrow hrow' (congrArg ManualRow.id heq : row.core.id = row'.core.id)
  · obtain ⟨m, hm, hchild, rfl, -, b, hb, hid, hclaim⟩ := hholds
    exact (h.stored.held row.core (hcore hrow) m hm hchild b hb hid hclaim).iff original
  · obtain ⟨row, hrow, hid, hcreator⟩ := h.tended.workers w hw
    obtain ⟨row', hrow', rfl⟩ := List.mem_map.mp hrow
    exact ⟨row', hrow', hid, hcreator⟩

/-- **Manual admission is exactly once**, in every run of calls and of whatever else goes on. -/
theorem exactly_once (d : Digests) (es : List Event) : ExactlyOnce (Run.run (step d) {} es) :=
  (Run.invariant step_inv es inv_empty).exactlyOnce

/-- A request that is repeated while the first call waits for its answer. -/
example :
    let request := Request.directApply ⟨1, "run-1".toList, {},
      [⟨7, "null_route_prefix".toList, none, none⟩], none, .routing⟩
    let s := Run.run (step ⟨id, fun _ => []⟩) {} [.arrive 0 request, .acquire 0, .read 0,
      .arrive 1 request, .acquire 1, .commit 0 0, .ledger 0 true, .release 0 true, .acquire 1,
      .read 1, .release 1 true, .spawn 1, .spawn 0, .work 0]
    s.manual.map (fun row => (row.id, row.creator)) = [(0, 0)] ∧
      s.workers = [⟨0, 0, .running⟩] := by
  decide +kernel

end Runs

end Rerouter.Manual
