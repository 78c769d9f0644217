import Rerouter.AdvisoryLocks
import Mathlib.Algebra.Order.Group.Multiset
import Mathlib.Tactic.Abel
import Mathlib.Tactic.GCongr

/-!
# Sessions of the advisory locks

What holds of one session and its connection is kept by everything that happens to the session
(`Rerouter.Advisory.Session.Sound`): there are the locks for its guards, a session that is not
poisoned knows the locks its connection holds, and one that was dropped is referred to by nothing.
It waits for a lock only where it may (`Rerouter.Advisory.Session.Ascends`) as long as no
acquisition enters it when it is poisoned.
-/

namespace Rerouter.Advisory

variable {L : Type*}

/-! ### A session and its connection -/

/-- The statement a holder waits for. -/
def Holder.awaits : Holder L → Option (Command L)
  | locking label => some (.getLock label)
  | releasing label => some (.releaseLock label)
  | _ => none

/-- The lock of the guard that the holder has still to give up. -/
def Session.sending (r : Session L) : Multiset L :=
  match r.holder with
  | some (.sending label) => {label}
  | _ => 0

/-- The lock that a statement will give up. -/
def Connection.leaving (k : Connection L) : Multiset L :=
  match k.command with
  | some (.releaseLock label) => {label}
  | _ => 0

/-- The lock that was granted, and not entered yet. -/
def Session.gained (r : Session L) (k : Connection L) : Multiset L :=
  match r.holder, k.command, k.answer with
  | some (.locking label), none, some true => {label}
  | _, _, _ => 0

/-- The lock that was given up, and not removed yet. -/
def Session.lost (r : Session L) (k : Connection L) : Multiset L :=
  match r.holder, k.command, k.answer with
  | some (.releasing label), none, some true => {label}
  | _, _, _ => 0

/-- A session with its connection. -/
structure Session.Held (r : Session L) (k : Connection L) : Prop where
  /-- What the holder waits for is what was sent last. -/
  sent : ∀ h ∈ r.holder, ∀ c ∈ h.awaits, k.command = none ∨ k.command = some c
  /-- Every guard has its lock. -/
  backed : r.guards + r.releases + (r.sending + k.leaving + r.gained k) ≤ k.locks
  /-- The labels that are held are known. -/
  synced : r.poisoned = false → r.held + r.gained k = k.locks + r.lost k
  /-- No statement was left behind. -/
  quiet : r.poisoned = false → ∀ c ∈ k.command, ∃ h ∈ r.holder, h.awaits = some c

/-- What holds of a session. -/
structure Session.Sound (r : Session L) : Prop where
  /-- Only a session with a connection is referred to. -/
  leased : r.Referenced → ∃ k, r.lease = .held k
  held : ∀ k, r.lease = .held k → r.Held k
  /-- The connection of a poisoned session is not used again. -/
  closed : r.poisoned = true → r.lease ≠ .returned

namespace Session

variable {r : Session L} {k : Connection L} {label : L}

theorem Held.failAcquire (h : r.Held k) : r.failAcquire.Held k where
  sent := by simp [Session.failAcquire]
  backed := by
    refine le_trans ?_ h.backed
    simp only [Session.failAcquire, sending, gained]
    gcongr <;> exact Multiset.zero_le _
  synced := by simp [Session.failAcquire]
  quiet := by simp [Session.failAcquire]

theorem Held.failRelease (h : r.Held k) : r.failRelease.Held k where
  sent := by simp [Session.failRelease]
  backed := by
    refine le_trans ?_ h.backed
    simp only [Session.failRelease, sending, gained]
    gcongr <;> exact Multiset.zero_le _
  synced := by simp [Session.failRelease]
  quiet := by simp [Session.failRelease]

theorem Held.cancel (h : r.Held k) : r.cancel.Held k := by
  unfold Session.cancel
  split
  · exact h.failAcquire
  · exact h.failAcquire
  · exact h.failRelease
  · exact h.failRelease
  · exact h

/-- A guard or a waiting future may go away. -/
theorem Held.poison {g q a : Multiset L} {n : ℕ} (h : r.Held k)
    (hle : g + q ≤ r.guards + r.releases) :
    { r with poisoned := true, activeGuards := n, guards := g, releases := q, acquires := a }.Held k
    where
  sent := h.sent
  backed := le_trans (by simpa [sending, gained] using hle) h.backed
  synced := by simp
  quiet := by simp

theorem Held.enter [LinearOrder L] (h : r.Held k) (hfree : r.holder = none) :
    (r.enter label).Held k := by
  unfold Session.enter
  split_ifs
  · refine ⟨by simp [Holder.awaits], ?_, fun hp => ?_, fun hp c hc => ?_⟩
    · simpa [sending, gained, hfree] using h.backed
    · simpa [gained, lost, hfree] using h.synced hp
    · obtain ⟨h', hh', -⟩ := h.quiet hp c hc
      rw [hfree] at hh'
      exact absurd hh' (by simp)
  · exact h

theorem Held.send (h : r.Held k) (hlease : r.lease = .held k) :
    ∀ k', r.send.lease = .held k' → r.send.Held k' := by
  unfold Session.send
  split
  · rename_i hstatement hheld
    intro k' hk'
    rw [hlease] at hheld
    cases hheld
    cases hk'
    rcases hh : r.holder with _ | (label | label | label | label)
    all_goals simp only [hh, Option.bind_none, Option.bind_some, Holder.statement, reduceCtorEq,
      Option.some.injEq, Prod.mk.injEq] at hstatement
    · obtain ⟨rfl, rfl⟩ := hstatement
      refine ⟨by simp [Holder.awaits], ?_, fun hp => ?_, by simp [Holder.awaits]⟩
      · simpa [sending, gained, Connection.leaving, hh] using h.backed
      · simpa [gained, lost, hh] using h.synced hp
    · obtain ⟨rfl, rfl⟩ := hstatement
      refine ⟨by simp [Holder.awaits], ?_, fun hp => ?_, by simp [Holder.awaits]⟩
      · simpa [sending, gained, Connection.leaving, hh] using h.backed
      · simpa [gained, lost, hh] using h.synced hp
  · intro k' hk'
    rw [hlease] at hk'
    cases hk'
    exact h

section
variable {c : Command L}

theorem gained_eq_zero (hc : k.command = some c) : r.gained k = 0 := by
  unfold Session.gained
  split
  · simp_all
  · rfl

theorem lost_eq_zero (hc : k.command = some c) : r.lost k = 0 := by
  unfold Session.lost
  split
  · simp_all
  · rfl

end

/-- A statement that was carried out, when it is not the one its holder waits for. -/
theorem Held.left {k' : Connection L} {c : Command L} (h : r.Held k) (lease : Lease L)
    (hc : k.command = some c) (hcommand : k'.command = none)
    (hother : ∀ h ∈ r.holder, h.awaits ≠ some c)
    (hlocks : k.locks ≤ k'.locks + k.leaving) : { r with lease }.Held k' := by
  -- so the statement was sent for a holder that has left: nobody waits for what it did
  have hnone : ∀ h ∈ r.holder, h.awaits = none := by
    intro h' hh'
    by_contra hne
    obtain ⟨c', hc'⟩ := Option.ne_none_iff_exists'.mp hne
    rcases h.sent h' hh' c' hc' with hnil | heq
    · simp [hc] at hnil
    · exact hother h' hh' (by rw [hc', ← heq, hc])
  have hgained : r.gained k' = 0 := by
    unfold gained
    split
    · rename_i label hh _ _
      exact absurd (hnone _ hh) (by simp [Holder.awaits])
    · rfl
  refine ⟨fun h' hh' c' hc' => .inl hcommand, ?_, fun hp => ?_,
    fun _ c' hc' => by simp [hcommand] at hc'⟩
  -- a lock it took has no guard yet, and a lock it gave back was counted as leaving
  · have hbacked := h.backed.trans hlocks
    rw [gained_eq_zero hc, add_zero, ← add_assoc] at hbacked
    have hleaving : k'.leaving = 0 := by simp [Connection.leaving, hcommand]
    show r.guards + r.releases + (r.sending + k'.leaving + r.gained k') ≤ k'.locks
    rw [hgained, hleaving, add_zero, add_zero]
    exact le_of_add_le_add_right hbacked
  · obtain ⟨h', hh', hawaits⟩ := h.quiet hp c hc
    exact absurd hawaits (hother h' hh')

/-- A statement that is carried out for the acquisition that waits for it. -/
theorem Held.grant (h : r.Held k) (granted : Bool) (lease : Lease L)
    (hc : k.command = some (.getLock label)) (hh : r.holder = some (.locking label)) :
    { r with lease }.Held
      ⟨none, some granted, if granted then label ::ₘ k.locks else k.locks⟩ := by
  have hbacked := h.backed
  have hsynced := h.synced
  rw [gained_eq_zero hc] at hbacked hsynced
  rw [lost_eq_zero hc] at hsynced
  simp only [sending, Connection.leaving, hc, hh, add_zero] at hbacked hsynced
  cases granted
  · refine ⟨by simp, ?_, fun hp => ?_, by simp⟩
    · simpa [sending, Connection.leaving, gained, hh] using hbacked
    · simpa [gained, lost, hh] using hsynced hp
  · refine ⟨by simp, ?_, fun hp => ?_, by simp⟩
    · simpa [sending, Connection.leaving, gained, hh, ← Multiset.singleton_add, add_comm]
        using hbacked
    · simpa [gained, lost, hh, ← Multiset.singleton_add, add_comm] using hsynced hp

/-- A statement that is carried out for the release that waits for it. -/
theorem Held.giveUp [DecidableEq L] (h : r.Held k) (lease : Lease L)
    (hc : k.command = some (.releaseLock label)) (hh : r.holder = some (.releasing label)) :
    { r with lease }.Held ⟨none, some true, k.locks.erase label⟩ := by
  have hbacked := h.backed
  have hsynced := h.synced
  rw [gained_eq_zero hc] at hbacked hsynced
  rw [lost_eq_zero hc] at hsynced
  simp only [sending, Connection.leaving, hc, hh, add_zero, zero_add] at hbacked hsynced
  have hmem : label ∈ k.locks := Multiset.mem_of_le hbacked (by simp)
  refine ⟨by simp, ?_, fun hp => ?_, by simp⟩
  · have herase := Multiset.erase_le_erase label hbacked
    rw [add_comm, Multiset.singleton_add, Multiset.erase_cons_head] at herase
    simpa [sending, Connection.leaving, gained, hh] using herase
  · have hlocks := hsynced hp
    simp only [gained, lost, hh, add_zero]
    rw [add_comm, Multiset.singleton_add, Multiset.cons_erase hmem]
    exact hlocks

theorem awaits_eq_getLock {h : Holder L} :
    h.awaits = some (.getLock label) ↔ h = .locking label := by
  cases h <;> simp [Holder.awaits]

theorem awaits_eq_releaseLock {h : Holder L} :
    h.awaits = some (.releaseLock label) ↔ h = .releasing label := by
  cases h <;> simp [Holder.awaits]

/-- What the database grants is there for the guards it is granted for. -/
theorem Held.mem_locks (h : r.Held k) (hc : k.command = some (.releaseLock label)) :
    label ∈ k.locks := by
  refine Multiset.mem_of_le h.backed ?_
  simp [Connection.leaving, hc]

/-- What a statement does to the locks is what the holder that waits for it expects. -/
theorem Held.perform [DecidableEq L] (h : r.Held k) (granted : Bool) (lease : Lease L) :
    { r with lease }.Held (k.perform granted) := by
  rcases hc : k.command with _ | (label | label)
  · rw [Connection.perform, hc]
    exact ⟨h.sent, h.backed, h.synced, h.quiet⟩
  · by_cases hh : r.holder = some (.locking label)
    · have hgrant := h.grant granted lease hc hh
      unfold Connection.perform
      cases granted <;> simpa [hc] using hgrant
    -- the acquisition that asked for the lock was cancelled; the server carries it out all the same
    · refine h.left lease hc ?_ ?_ ?_
      · unfold Connection.perform
        cases granted <;> simp [hc]
      · intro h' hh' hawaits
        rw [awaits_eq_getLock] at hawaits
        exact hh (hawaits ▸ hh')
      · unfold Connection.perform
        cases granted <;> simp [hc, Connection.leaving, Multiset.le_cons_self]
  · have hmem := h.mem_locks hc
    by_cases hh : r.holder = some (.releasing label)
    · have hgive := h.giveUp lease hc hh
      unfold Connection.perform
      simpa [hc, hmem] using hgive
    -- and so for a release
    · refine h.left lease hc ?_ ?_ ?_
      · simp [Connection.perform, hc, hmem]
      · intro h' hh' hawaits
        rw [awaits_eq_releaseLock] at hawaits
        exact hh (hawaits ▸ hh')
      · simp only [Connection.perform, hc, hmem, Connection.leaving, if_true]
        rw [add_comm, Multiset.singleton_add, Multiset.cons_erase hmem]

/-- The answer is there once the statement was carried out. -/
theorem answer_eq_some {b : Bool} (hlease : r.lease = .held k) (hb : r.answer = some b) :
    k.command = none ∧ k.answer = some b := by
  unfold Session.answer at hb
  split at hb
  · rename_i hheld
    rw [hlease] at hheld
    cases hheld
    exact ⟨rfl, hb⟩
  · cases hb

theorem Held.read [LinearOrder L] {b : Bool} (h : r.Held k) (hlease : r.lease = .held k)
    (hb : r.answer = some b) :
    (r.read b).Held k := by
  obtain ⟨hcommand, hanswer⟩ := answer_eq_some hlease hb
  unfold Session.read
  split
  · rename_i label hh
    split_ifs with hgranted
    · subst hgranted
      refine ⟨by simp, ?_, fun hp => ?_, ?_⟩
      -- the lock that was granted becomes the lock of a new guard
      · have := h.backed
        simp only [sending, gained, hh, hcommand, hanswer, Connection.leaving] at this ⊢
        refine le_trans (le_of_eq ?_) this
        simp only [← Multiset.singleton_add, add_zero, zero_add]
        abel
      · have := h.synced hp
        simp only [gained, lost, hh, hcommand, hanswer] at this ⊢
        rw [← this, ← Multiset.singleton_add]
        simp [add_comm]
      · simp [hcommand]
    · exact h.failAcquire
  · rename_i label hh
    split_ifs with hgranted
    · subst hgranted
      refine ⟨by simp, ?_, fun hp => ?_, ?_⟩
      -- and one that was given back is no guard's any more
      · simpa [sending, gained, hh] using h.backed
      · have := h.synced hp
        simp only [gained, lost, hh, hcommand, hanswer] at this ⊢
        rw [add_zero] at this
        rw [this, add_zero, add_zero, add_comm, Multiset.singleton_add, Multiset.erase_cons_head]
      · simp [hcommand]
    · exact h.failRelease
  · exact h

theorem Held.enterRelease [DecidableEq L] (h : r.Held k) (hmem : label ∈ r.releases)
    (hfree : r.holder = none) :
    { r with releases := r.releases.erase label, holder := some (.sending label) }.Held k := by
  refine ⟨by simp [Holder.awaits], ?_, fun hp => ?_, fun hp c hc => ?_⟩
  · have hbacked := h.backed
    rw [← Multiset.cons_erase hmem, ← Multiset.singleton_add] at hbacked
    simp only [sending, gained, hfree] at hbacked ⊢
    refine le_trans (le_of_eq ?_) hbacked
    abel
  · simpa [gained, lost, hfree] using h.synced hp
  · obtain ⟨h', hh', -⟩ := h.quiet hp c hc
    rw [hfree] at hh'
    exact absurd hh' (by simp)

theorem lease_cancel : r.cancel.lease = r.lease := by
  unfold Session.cancel
  split <;> rfl

theorem lease_enter [LinearOrder L] : (r.enter label).lease = r.lease := by
  unfold Session.enter
  split_ifs <;> rfl

theorem lease_read [LinearOrder L] {b : Bool} : (r.read b).lease = r.lease := by
  unfold Session.read
  split
  · split_ifs <;> rfl
  · split_ifs <;> rfl
  · rfl

theorem exists_lease_send (hlease : r.lease = .held k) : ∃ k', r.send.lease = .held k' := by
  unfold Session.send
  split
  · exact ⟨_, rfl⟩
  · exact ⟨k, hlease⟩

variable [LinearOrder L]

/-- **What happens to a session keeps the locks of its guards.** -/
theorem Held.step (h : r.Held k) (hlease : r.lease = .held k) (e : SessionEvent L) :
    ∃ k', (r.step e).lease = .held k' ∧ (r.step e).Held k' := by
  cases e with
  | enter label =>
    by_cases hcan : label ∈ r.acquires ∧ r.holder = none
    -- the acquisition that enters is the holder from now on, and has sent nothing
    · rw [Session.step, if_pos hcan]
      refine ⟨k, lease_enter.trans hlease, Held.enter ?_ hcan.2⟩
      exact ⟨h.sent, h.backed, h.synced, h.quiet⟩
    · rw [Session.step, if_neg hcan]
      exact ⟨k, hlease, h⟩
  | send =>
    obtain ⟨k', hk'⟩ := exists_lease_send hlease
    exact ⟨k', hk', h.send hlease k' hk'⟩
  | perform granted =>
    simp only [Session.step, hlease]
    exact ⟨_, rfl, h.perform granted _⟩
  | read =>
    rcases hb : r.answer with _ | b
    · simp only [Session.step, hb, Option.elim_none]
      exact ⟨k, hlease, h⟩
    · simp only [Session.step, hb, Option.elim_some]
      exact ⟨k, lease_read.trans hlease, h.read hlease hb⟩
  | dropGuard label =>
    simp only [Session.step]
    split_ifs
    · refine ⟨k, hlease, h.poison ?_⟩
      gcongr
      exact Multiset.erase_le _ _
    · exact ⟨k, hlease, h⟩
  | release label =>
    simp only [Session.step]
    split_ifs with hmem
    -- a guard becomes a release: the same locks are needed
    · refine ⟨k, hlease, h.sent, le_trans (le_of_eq ?_) h.backed, h.synced, h.quiet⟩
      have hguards : r.guards = label ::ₘ r.guards.erase label := (Multiset.cons_erase hmem).symm
      conv_rhs => rw [hguards]
      simp only [sending, gained, ← Multiset.singleton_add]
      abel
    · exact ⟨k, hlease, h⟩
  | enterRelease label =>
    simp only [Session.step]
    split_ifs with hcan
    · exact ⟨k, hlease, h.enterRelease hcan.1 hcan.2⟩
    · exact ⟨k, hlease, h⟩
  | cancelAcquire label => exact ⟨k, hlease, h.sent, h.backed, h.synced, h.quiet⟩
  | cancelRelease label =>
    simp only [Session.step]
    split_ifs
    · refine ⟨k, hlease, h.poison ?_⟩
      gcongr
      exact Multiset.erase_le _ _
    · exact ⟨k, hlease, h⟩
  | cancelHolder => exact ⟨k, lease_cancel.trans hlease, h.cancel⟩

/-- Nothing happens to a session that nothing refers to and that has no connection. -/
theorem step_of_not_referenced (href : ¬ r.Referenced) (hlease : ∀ k, r.lease ≠ .held k)
    (e : SessionEvent L) : r.step e = r := by
  simp only [Referenced, ne_eq, not_or, not_not] at href
  obtain ⟨hacquires, hguards, hreleases, hholder⟩ := href
  cases e with
  | enter label => simp [Session.step, hacquires]
  | send =>
    simp [Session.step, Session.send, hholder]
  | perform granted =>
    simp only [Session.step]
  | read =>
    -- without a connection there is no answer to read
    have hanswer : r.answer = none := by
      unfold Session.answer
      split
      · rename_i hheld
        exact absurd hheld (hlease _)
      · rfl
    simp [Session.step, hanswer]
  | dropGuard label => simp [Session.step, hguards]
  | release label => simp [Session.step, hguards]
  | enterRelease label => simp [Session.step, hreleases]
  | cancelAcquire label =>
    obtain ⟨⟩ := r
    simp_all [Session.step]
  | cancelRelease label => simp [Session.step, hreleases]
  | cancelHolder => simp [Session.step, Session.cancel, hholder]

/-- What holds of a session is kept by what happens to it. -/
theorem Sound.step (h : r.Sound) (e : SessionEvent L) : (r.step e).Sound := by
  by_cases hlease : ∃ k, r.lease = .held k
  · obtain ⟨k, hk⟩ := hlease
    obtain ⟨k', hk', hheld⟩ := (h.held k hk).step hk e
    refine ⟨fun _ => ⟨k', hk'⟩, fun k'' hk'' => ?_, fun _ => by simp [hk']⟩
    rw [hk'] at hk''
    cases hk''
    exact hheld
  · have href : ¬ r.Referenced := fun href => hlease (h.leased href)
    rw [step_of_not_referenced href (not_exists.mp hlease)]
    exact h

/-- A session may be dropped once nothing refers to it. -/
theorem Sound.drop (href : ¬ r.Referenced) : r.drop.Sound := by
  refine ⟨fun href' => absurd href' href, fun k hk => ?_, fun hp => ?_⟩
  · simp only [Session.drop] at hk
    split_ifs at hk
  · simp only [Session.drop] at hp ⊢
    simp [hp]

/-- A connection that goes back to the pool holds no lock. -/
theorem Sound.locks_eq_zero (h : r.Sound) (href : ¬ r.Referenced) (hk : r.lease = .held k)
    (hreturned : r.drop.lease.isReturned = true) : k.command = none ∧ k.locks = 0 := by
  simp only [Referenced, ne_eq, not_or, not_not] at href
  obtain ⟨-, -, -, hholder⟩ := href
  simp only [Session.drop] at hreturned
  split_ifs at hreturned with hclosed
  · simp [Lease.isReturned] at hreturned
  · simp only [not_or, Bool.not_eq_true, ne_eq, not_not] at hclosed
    have hheld := h.held k hk
    have hcommand : k.command = none := by
      by_contra hne
      obtain ⟨c, hc⟩ := Option.ne_none_iff_exists'.mp hne
      obtain ⟨h', hh', -⟩ := hheld.quiet hclosed.1 c hc
      simp [hholder] at hh'
    refine ⟨hcommand, ?_⟩
    have hsynced := hheld.synced hclosed.1
    simpa [gained, lost, hholder, hclosed.2, eq_comm] using hsynced

/-! ### Locks in order -/

/-- A lock that may be waited for by a connection that has `locks`: it is above them, or one of
them. -/
def Above (label : L) (locks : Multiset L) : Prop := (∀ m ∈ locks, m < label) ∨ label ∈ locks

/-- A session that waits for a lock only where it may. -/
structure Ascends (r : Session L) (k : Connection L) : Prop where
  naming : ∀ label, r.holder = some (.naming label) → k.command = none ∧ Above label k.locks
  wanting : ∀ label, k.command = some (.getLock label) → Above label k.locks

theorem Ascends.of_command {r' : Session L} (h : r.Ascends k)
    (hholder : ∀ label, r'.holder ≠ some (.naming label)) : r'.Ascends k where
  naming := fun label hh => absurd hh (hholder label)
  wanting := h.wanting

omit [LinearOrder L] in
/-- The labels of a session that is not poisoned and not locked are the locks it holds. -/
theorem Held.eq_locks (h : r.Held k) (hp : r.poisoned = false) (hfree : r.holder = none) :
    k.command = none ∧ r.held = k.locks := by
  refine ⟨?_, by simpa [gained, lost, hfree] using h.synced hp⟩
  by_contra hne
  obtain ⟨c, hc⟩ := Option.ne_none_iff_exists'.mp hne
  obtain ⟨h', hh', -⟩ := h.quiet hp c hc
  simp [hfree] at hh'

theorem Ascends.enter (h : r.Ascends k) (hheld : r.Held k) (hp : r.poisoned = false)
    (hfree : r.holder = none) : (r.enter label).Ascends k := by
  obtain ⟨hcommand, hlocks⟩ := hheld.eq_locks hp hfree
  unfold Session.enter
  split_ifs with hordered
  · refine ⟨fun label' hh => ⟨hcommand, ?_⟩, h.wanting⟩
    obtain rfl : label = label' := by simpa using hh
    rw [hlocks] at hordered
    by_cases hmem : label ∈ k.locks
    · exact .inr hmem
    · refine .inl fun m hm => lt_of_le_of_ne ?_ fun heq => hmem (heq ▸ hm)
      exact (hordered.resolve_right hmem) m hm
  · exact h

theorem Ascends.send (h : r.Ascends k) (hlease : r.lease = .held k) :
    ∀ k', r.send.lease = .held k' → r.send.Ascends k' := by
  unfold Session.send
  split
  · rename_i hstatement hheld
    intro k' hk'
    rw [hlease] at hheld
    cases hheld
    cases hk'
    rcases hh : r.holder with _ | (label | label | label | label)
    all_goals simp only [hh, Option.bind_none, Option.bind_some, Holder.statement, reduceCtorEq,
      Option.some.injEq, Prod.mk.injEq] at hstatement
    · obtain ⟨rfl, rfl⟩ := hstatement
      refine ⟨by simp, fun label' hc => ?_⟩
      obtain rfl : label = label' := by simpa using hc
      exact (h.naming label hh).2
    · obtain ⟨rfl, rfl⟩ := hstatement
      exact ⟨by simp, by simp⟩
  · intro k' hk'
    rw [hlease] at hk'
    cases hk'
    exact h

theorem Ascends.perform (h : r.Ascends k) (granted : Bool) (lease : Lease L) :
    { r with lease }.Ascends (k.perform granted) := by
  rcases hc : k.command with _ | c
  · rw [Connection.perform, hc]
    exact ⟨h.naming, h.wanting⟩
  · have hdone : (k.perform granted).command = none := by
      unfold Connection.perform
      rcases c with label | label
      · cases granted <;> simp [hc]
      · simp only [hc]
        split_ifs <;> rfl
    refine ⟨fun label hh => ?_, fun label hc' => by simp [hdone] at hc'⟩
    have hnone := (h.naming label hh).1
    simp [hc] at hnone

theorem Ascends.read {b : Bool} (h : r.Ascends k) : (r.read b).Ascends k := by
  unfold Session.read
  split
  · split_ifs
    · exact h.of_command (by simp)
    · exact h.of_command (by simp [Session.failAcquire])
  · split_ifs
    · exact h.of_command (by simp)
    · exact h.of_command (by simp [Session.failRelease])
  · exact h

theorem Ascends.cancel (h : r.Ascends k) : r.cancel.Ascends k := by
  unfold Session.cancel
  split
  · exact h.of_command (by simp [Session.failAcquire])
  · exact h.of_command (by simp [Session.failAcquire])
  · exact h.of_command (by simp [Session.failRelease])
  · exact h.of_command (by simp [Session.failRelease])
  · exact h

/-- An acquisition that enters a session only while it is not poisoned. -/
def EntersSound (r : Session L) : SessionEvent L → Prop
  | .enter label => label ∈ r.acquires → r.holder = none → r.poisoned = false
  | _ => True

instance (r : Session L) : (e : SessionEvent L) → Decidable (r.EntersSound e)
  | .enter label =>
    inferInstanceAs (Decidable (label ∈ r.acquires → r.holder = none → r.poisoned = false))
  | .send | .perform _ | .read | .dropGuard _ | .release _ | .enterRelease _ | .cancelAcquire _
  | .cancelRelease _ | .cancelHolder => isTrue trivial

/-- **Where no acquisition enters a poisoned session, the locks are waited for in order.** -/
theorem Ascends.step (h : r.Ascends k) (hheld : r.Held k) (hlease : r.lease = .held k)
    {e : SessionEvent L} (he : r.EntersSound e) :
    ∀ k', (r.step e).lease = .held k' → (r.step e).Ascends k' := by
  have hsame : ∀ {r' : Session L}, r'.lease = r.lease → r'.Ascends k →
      ∀ k', r'.lease = .held k' → r'.Ascends k' := by
    intro r' hr' hascends k' hk'
    rw [hr', hlease] at hk'
    cases hk'
    exact hascends
  cases e with
  | enter label =>
    simp only [Session.step]
    split_ifs with hcan
    -- only entering can make the session want a lock, and it enters sound
    · refine hsame lease_enter (Ascends.enter ⟨h.naming, h.wanting⟩ ?_ (he hcan.1 hcan.2) hcan.2)
      exact ⟨hheld.sent, hheld.backed, hheld.synced, hheld.quiet⟩
    · exact hsame rfl h
  | send => exact h.send hlease
  | perform granted =>
    simp only [Session.step, hlease]
    intro k' hk'
    cases hk'
    exact h.perform granted _
  | read =>
    rcases hb : r.answer with _ | b
    · simp only [Session.step, hb, Option.elim_none]
      exact hsame rfl h
    · simp only [Session.step, hb, Option.elim_some]
      exact hsame lease_read h.read
  | dropGuard label =>
    simp only [Session.step]
    split_ifs
    · exact hsame rfl ⟨h.naming, h.wanting⟩
    · exact hsame rfl h
  | release label =>
    simp only [Session.step]
    split_ifs
    · exact hsame rfl ⟨h.naming, h.wanting⟩
    · exact hsame rfl h
  | enterRelease label =>
    simp only [Session.step]
    split_ifs
    · exact hsame rfl (h.of_command (by simp))
    · exact hsame rfl h
  | cancelAcquire label => exact hsame rfl ⟨h.naming, h.wanting⟩
  | cancelRelease label =>
    simp only [Session.step]
    split_ifs
    · exact hsame rfl ⟨h.naming, h.wanting⟩
    · exact hsame rfl h
  | cancelHolder => exact hsame lease_cancel h.cancel

end Session

end Rerouter.Advisory
