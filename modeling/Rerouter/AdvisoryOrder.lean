import Rerouter.AdvisoryRuns

/-!
# Operations that wait for locks

No two operations hold guards of one label, every guard has its lock, and a poisoned session is
given to no acquisition and its connection not used again: all this holds in every run.

Locks are waited for in order as long as no acquisition enters a poisoned session. `acquire` sees
to it before it waits for the session, and not again once it has locked it: while it waits, an
acquisition or a release of the same operation may be interrupted, and leave a lock that the
session does not know of.
-/

namespace Rerouter.Advisory

variable {L : Type*} [LinearOrder L]

/-- The guards of a session, those among them whose `release` waits for it. -/
def Session.live (r : Session L) : Multiset L := r.guards + r.releases

/-- What interrupts an acquisition or a release, or drops a guard that was not released. -/
def Session.Interrupts (r : Session L) : SessionEvent L → Prop
  | .dropGuard label => label ∈ r.guards
  | .cancelRelease label => label ∈ r.releases
  | .cancelHolder => r.holder ≠ none
  | .read => r.answer = some false ∧ ∃ h ∈ r.holder, h.awaits ≠ none
  | _ => False

namespace System

variable (w : System L)

/-- An operation has a lock. -/
def Holds (o : ℕ) (label : L) : Prop := ∃ r ∈ w.sessions, r.operation = o ∧ label ∈ r.locks

/-- The connection of an operation waits for a lock that another connection has. -/
def Waits (o : ℕ) (label : L) : Prop :=
  ∃ (s s' : ℕ) (r r' : Session L), w.sessions[s]? = some r ∧ w.sessions[s']? = some r' ∧ s ≠ s' ∧
      r.operation = o ∧
    r.wants = some label ∧ label ∈ r'.locks

/-- Guards exclude one another, and a poisoned session is used no more. -/
structure Safe : Prop where
  /-- No two operations have guards of one label. -/
  exclusive : ∀ r ∈ w.sessions, ∀ r' ∈ w.sessions, ∀ label ∈ r.live, label ∈ r'.live →
    r.operation = r'.operation
  /-- A lock is held at least as often as there are guards. -/
  backed : ∀ r ∈ w.sessions, r.live ≤ r.locks
  /-- What is interrupted poisons its session. -/
  interrupted : ∀ (s : ℕ) e (r r' : Session L), w.sessions[s]? = some r → r.Interrupts e →
    (step w (.session s e)).sessions[s]? = some r' → r'.poisoned = true
  /-- A poisoned session stays poisoned, and is given to no acquisition. -/
  retired : ∀ (s : ℕ) e (r r' : Session L), w.sessions[s]? = some r → r.poisoned = true →
    (step w e).sessions[s]? = some r' → r'.poisoned = true ∧ r'.acquires ≤ r.acquires
  /-- The connection of a poisoned session does not go back to the pool. -/
  closed : ∀ r ∈ w.sessions, r.poisoned = true → r.lease ≠ .returned

/-- Locks are waited for in order. -/
structure Orderly : Prop where
  /-- An operation waits only for a lock above all those it holds. -/
  ordered : ∀ o label m, w.Waits o label → w.Holds o m → m < label
  /-- No operations wait for one another in a circle. -/
  acyclic : ∀ o, ¬ Relation.TransGen (LockOrder.WaitsFor w.Waits w.Holds) o o

end System

/-- An acquisition that locks a session finds it not poisoned. -/
def EntersSound (w : System L) : Event L → Prop
  | .session s e => ∀ r ∈ w.sessions[s]?, r.EntersSound e
  | _ => True

instance (w : System L) : (e : Event L) → Decidable (EntersSound w e)
  | .session s e => inferInstanceAs (Decidable (∀ r ∈ w.sessions[s]?, r.EntersSound e))
  | .acquire .. | .enterSlot .. | .connect .. | .cancelSlot .. | .cancelConnecting _
  | .endOperation _ | .dropSession _ => isTrue trivial

/-- Every session waits for a lock only where it may. -/
def System.Ascends (w : System L) : Prop := ∀ r ∈ w.sessions, ∀ k, r.lease = .held k → r.Ascends k

namespace System

variable {w : System L} {o s : ℕ} {r : Session L} {label : L}

theorem Ascends.setSession {r' : Session L} (h : w.Ascends)
    (hr' : ∀ k, r'.lease = .held k → r'.Ascends k) :
    (w.setSession s r').Ascends := by
  intro r'' hmem k hk
  rcases List.mem_or_eq_of_mem_set hmem with hold | rfl
  · exact h r'' hold k hk
  · exact hr' k hk

theorem Ascends.dropSession (h : w.Ascends) : (w.dropSession s r).Ascends := by
  have hdrop : (w.setSession s r.drop).Ascends :=
    h.setSession fun k hk => absurd hk (lease_drop r k)
  unfold System.dropSession
  split
  · split_ifs
    · exact hdrop
    · exact hdrop
  · exact h

theorem Ascends.connect {k : Connection L} (h : w.Ascends) (hk : k.command = none) :
    (w.connect o label k).Ascends := by
  intro r hmem k' hk'
  rcases List.mem_append.mp hmem with hold | hnew
  · exact h r hold k' hk'
  · obtain rfl := List.mem_singleton.mp hnew
    cases hk'
    exact ⟨by simp, by simp [hk]⟩

theorem Ascends.enterSlot (h : w.Ascends) : (w.enterSlot o label).Ascends := by
  unfold System.enterSlot
  split
  · exact h
  · split
    · exact h
    · rename_i r hs
      split_ifs
      · refine h.setSession fun k hk => ?_
        have hr := h r (List.mem_of_getElem? hs) k hk
        exact ⟨hr.naming, hr.wanting⟩
      · exact Ascends.dropSession h
      · exact h

/-- **Sessions go on waiting for locks only where they may.** -/
theorem Ascends.step (h : w.Ascends) (hsound : w.Sound) {e : Event L} (he : EntersSound w e) :
    (step w e).Ascends := by
  cases e with
  | acquire o label =>
    simp only [Advisory.step]
    split_ifs <;> exact h
  | enterSlot o label =>
    simp only [Advisory.step]
    split_ifs
    · exact Ascends.enterSlot h
    · exact h
  | connect o idle =>
    simp only [Advisory.step]
    split
    · exact h
    · exact Ascends.connect h rfl
    · split
      · exact h
      · rename_i k hk
        exact Ascends.connect h (hsound.pool k (List.mem_of_getElem? hk)).1
  | cancelSlot o label => exact h
  | cancelConnecting o => exact h
  | session s e =>
    simp only [Advisory.step]
    split
    · exact h
    · rename_i r hs
      refine h.setSession fun k' hk' => ?_
      have hr := hsound.sessions s r hs
      -- the run only restricts acquisitions that enter
      have henters : r.EntersSound (w.granted s r e) := by
        cases e with
        | enter label => exact he r hs
        | _ => trivial
      by_cases hlease : ∃ k, r.lease = .held k
      · obtain ⟨k, hk⟩ := hlease
        exact (h r (List.mem_of_getElem? hs) k hk).step (hr.held k hk) hk henters k' hk'
      -- a session without a connection that nothing refers to stays as it is
      · have href : ¬ r.Referenced := fun href => hlease (hr.leased href)
        rw [Session.step_of_not_referenced href (not_exists.mp hlease)] at hk'
        exact absurd hk' (not_exists.mp hlease k')
  | endOperation o =>
    simp only [Advisory.step]
    split_ifs <;> exact h
  | dropSession s =>
    simp only [Advisory.step]
    split
    · exact h
    · split_ifs
      · exact h.dropSession
      · exact h

end System

/-! ### Poisoned sessions -/

/-- A poisoned session stays poisoned, and is given to no acquisition. -/
def Retires (before after : List (Session L)) : Prop :=
  ∀ (s : ℕ) (r r' : Session L), before[s]? = some r → r.poisoned = true → after[s]? = some r' →
    r'.poisoned = true ∧ r'.acquires ≤ r.acquires

namespace Retires

variable {before : List (Session L)} {s : ℕ} {r : Session L} {w : System L}

omit [LinearOrder L] in
theorem refl (before : List (Session L)) : Retires before before := by
  intro s r r' hs hp hs'
  obtain rfl : r = r' := by simpa [hs] using hs'
  exact ⟨hp, le_rfl⟩

omit [LinearOrder L] in
theorem set {r' : Session L} (hs : before[s]? = some r)
    (hkeep : r.poisoned = true → r'.poisoned = true ∧ r'.acquires ≤ r.acquires) :
    Retires before (before.set s r') := by
  intro s₁ r₁ r₂ hs₁ hp hs₂
  rw [List.getElem?_set] at hs₂
  split_ifs at hs₂ with heq hlt
  · subst heq
    obtain rfl : r = r₁ := by simpa [hs] using hs₁
    cases hs₂
    exact hkeep hp
  · exact refl before s₁ r₁ r₂ hs₁ hp hs₂

omit [LinearOrder L] in
theorem append (after : List (Session L)) : Retires before (before ++ after) := by
  intro s r r' hs hp hs'
  rw [List.getElem?_append_left (List.getElem?_eq_some_iff.mp hs).1] at hs'
  exact refl before s r r' hs hp hs'

theorem dropSession (hs : w.sessions[s]? = some r) :
    Retires w.sessions (w.dropSession s r).sessions := by
  rcases hlease : r.lease with k | _ | _
  · rw [System.sessions_dropSession hlease]
    exact set hs fun hp => ⟨hp, le_rfl⟩
  · simpa only [System.dropSession, hlease] using refl w.sessions
  · simpa only [System.dropSession, hlease] using refl w.sessions

theorem enterSlot {o : ℕ} {label : L} : Retires w.sessions (w.enterSlot o label).sessions := by
  unfold System.enterSlot
  split
  · exact refl _
  · split
    · exact refl _
    · rename_i r hs
      split_ifs with hsound
      · exact set hs fun hp => by simp [hsound] at hp
      · rw [System.dropSession_setOperation]
        exact dropSession hs
      · exact refl _

/-- **No step gives a poisoned session to an acquisition.** -/
theorem step (w : System L) (e : Event L) : Retires w.sessions (step w e).sessions := by
  cases e with
  | acquire o label =>
    simp only [Advisory.step]
    split_ifs <;> exact refl _
  | enterSlot o label =>
    simp only [Advisory.step]
    split_ifs
    · exact enterSlot (w := w.setOperation o _)
    · exact refl _
  | connect o idle =>
    simp only [Advisory.step]
    split
    · exact refl _
    · exact append _
    · split
      · exact refl _
      · exact append _
  | cancelSlot o label => exact refl _
  | cancelConnecting o => exact refl _
  | session s e =>
    simp only [Advisory.step]
    split
    · exact refl _
    -- what the session does itself cannot take back that it is poisoned
    · rename_i r hs
      exact set hs fun hp => Session.step_of_poisoned hp _
  | endOperation o =>
    simp only [Advisory.step]
    split_ifs <;> exact refl _
  | dropSession s =>
    simp only [Advisory.step]
    split
    · exact refl _
    · rename_i r hs
      split_ifs
      · exact dropSession hs
      · exact refl _

end Retires

/-- What interrupts an acquisition or a release poisons its session. -/
theorem Session.poisoned_of_interrupts {r : Session L} {e : SessionEvent L} (he : r.Interrupts e) :
    (r.step e).poisoned = true := by
  cases e with
  | dropGuard label =>
    have hmem : label ∈ r.guards := he
    simp [Session.step, hmem]
  | cancelRelease label =>
    have hmem : label ∈ r.releases := he
    simp [Session.step, hmem]
  | cancelHolder =>
    have hholder : r.holder ≠ none := he
    rcases hh : r.holder with _ | (label | label | label | label)
    · exact absurd hh hholder
    all_goals simp [Session.step, Session.cancel, hh, Session.failAcquire, Session.failRelease]
  | read =>
    obtain ⟨hanswer, h, hh, hawaits⟩ := he
    rcases h with label | label | label | label
    -- only the answer to a lock or to a release is an interruption
    · simp [Holder.awaits] at hawaits
    · simp [Session.step, hanswer, Session.read, Option.mem_def.mp hh, Session.failAcquire]
    · simp [Holder.awaits] at hawaits
    · simp [Session.step, hanswer, Session.read, Option.mem_def.mp hh, Session.failRelease]
  | enter label => exact he.elim
  | send => exact he.elim
  | perform granted => exact he.elim
  | release label => exact he.elim
  | enterRelease label => exact he.elim
  | cancelAcquire label => exact he.elim

/-! ### What the locks guarantee -/

omit [LinearOrder L] in
/-- A guard has its lock. -/
theorem Session.Sound.live_le {r : Session L} (h : r.Sound) : r.live ≤ r.locks := by
  by_cases hlease : ∃ k, r.lease = .held k
  · obtain ⟨k, hk⟩ := hlease
    have hbacked := (h.held k hk).backed
    simp only [Session.locks, hk]
    exact le_trans (le_add_of_nonneg_right (Multiset.zero_le _)) hbacked
  · have href : ¬ r.Referenced := fun href => hlease (h.leased href)
    simp only [Session.Referenced, ne_eq, not_or, not_not] at href
    have hlive : r.live = 0 := by rw [Session.live, href.2.1, href.2.2.1, add_zero]
    rw [hlive]
    exact Multiset.zero_le _

omit [LinearOrder L] in
/-- A session waits only with its connection. -/
theorem Session.lease_of_wants {r : Session L} {label : L} (h : r.wants = some label) :
    ∃ k, r.lease = .held k ∧ k.command = some (.getLock label) := by
  unfold Session.wants at h
  split at h
  · rename_i label' answer locks hlease
    cases h
    exact ⟨_, hlease, rfl⟩
  · cases h

omit [LinearOrder L] in
theorem Session.lease_of_mem_locks {r : Session L} {label : L} (h : label ∈ r.locks) :
    ∃ k, r.lease = .held k ∧ label ∈ k.locks := by
  unfold Session.locks at h
  split at h
  · rename_i k hk
    exact ⟨k, hk, h⟩
  · simp at h

namespace System

variable {w : System L}

/-- **Locks are waited for in order.** -/
theorem Sound.ordered (h : w.Sound) (hascends : w.Ascends) {o : ℕ} {label m : L}
    (hwaits : w.Waits o label) (hholds : w.Holds o m) : m < label := by
  obtain ⟨s, s', r, r', hs, hs', hne, rfl, hwants, hother⟩ := hwaits
  obtain ⟨r₀, hr₀, hop, hm⟩ := hholds
  obtain ⟨k, hk, hcommand⟩ := Session.lease_of_wants hwants
  obtain ⟨k₀, hk₀, hm₀⟩ := Session.lease_of_mem_locks hm
  obtain ⟨s₀, hs₀⟩ := List.mem_iff_getElem?.mp hr₀
  -- it is the one session of the operation
  obtain rfl : s₀ = s := h.alone s₀ s r₀ r k₀ k hs₀ hs hk₀ hk hop
  obtain rfl : r₀ = r := by simpa [hs₀] using hs
  obtain rfl : k = k₀ := by simpa [hk] using hk₀
  rcases (hascends r₀ hr₀ k hk).wanting label hcommand with habove | hmem
  · exact habove m hm₀
  · have hown : label ∈ r₀.locks := by simpa [Session.locks, hk] using hmem
    exact absurd (h.apart s₀ s' r₀ r' label hs hs' hown hother) hne

theorem Sound.safe (h : w.Sound) : w.Safe where
  exclusive r hr r' hr' label hlabel hlabel' := by
    obtain ⟨s, hs⟩ := List.mem_iff_getElem?.mp hr
    obtain ⟨s', hs'⟩ := List.mem_iff_getElem?.mp hr'
    have hlock := Multiset.mem_of_le (h.sessions s r hs).live_le hlabel
    have hlock' := Multiset.mem_of_le (h.sessions s' r' hs').live_le hlabel'
    obtain rfl := h.apart s s' r r' label hs hs' hlock hlock'
    obtain rfl : r = r' := by simpa [hs] using hs'
    rfl
  backed r hr := by
    obtain ⟨s, hs⟩ := List.mem_iff_getElem?.mp hr
    exact (h.sessions s r hs).live_le
  interrupted s e r r' hs he hs' := by
    have hgranted : w.granted s r e = e := by cases e <;> first | rfl | exact he.elim
    have hlt := (List.getElem?_eq_some_iff.mp hs).1
    simp only [Advisory.step, hs, System.setSession, hgranted] at hs'
    rw [List.getElem?_set_self hlt, Option.some.injEq] at hs'
    exact hs' ▸ Session.poisoned_of_interrupts he
  retired s e r r' hs hp hs' := Retires.step w e s r r' hs hp hs'
  closed r hr hp := by
    obtain ⟨s, hs⟩ := List.mem_iff_getElem?.mp hr
    exact (h.sessions s r hs).closed hp

theorem Sound.orderly (h : w.Sound) (hascends : w.Ascends) : w.Orderly where
  ordered _ _ _ hwaits hholds := h.ordered hascends hwaits hholds
  acyclic := LockOrder.no_cycle fun _ _ _ hwaits hholds => h.ordered hascends hwaits hholds

end System

/-- What holds initially and is kept by every step. -/
theorem sound_run (events : List (Event L)) :
    (Run.run step {} events).Sound ∧ (Run.run step {} events).Slotted := by
  refine Run.invariant (I := fun w : System L => w.Sound ∧ w.Slotted) (fun w e h => ?_) events ?_
  · exact ⟨h.1.step h.2 e, h.2.step h.1 e⟩
  · exact ⟨System.sound_init, fun o s hs => by simp at hs⟩

theorem ascends_run (events : List (Event L)) (h : Run.Meets step EntersSound {} events) :
    (Run.run step {} events).Ascends := by
  have hinv := Run.invariant_of_meets
    (I := fun w : System L => (w.Sound ∧ w.Slotted) ∧ w.Ascends) (fun w e h he => ?_) ?_ h
  · exact hinv.2
  · exact ⟨⟨h.1.1.step h.1.2 e, h.1.2.step h.1.1 e⟩, h.2.step h.1.1 he⟩
  · exact ⟨sound_run [], fun r hr => by simp at hr⟩

/-- **Guards exclude one another in every run, and locks are waited for in order where no
acquisition enters a poisoned session.** -/
theorem advisory_locks (events : List (Event L)) :
    (Run.run step {} events).Safe ∧
      (Run.Meets step EntersSound {} events → (Run.run step {} events).Orderly) :=
  ⟨(sound_run events).1.safe, fun h => (sound_run events).1.orderly (ascends_run events h)⟩

/-- Two operations have a lock each, and the second one waits for that of the first. -/
def waitingRun : List (Event ℕ) :=
  [.acquire 1 1, .enterSlot 1 1, .connect 1 none,
   .session 0 (.enter 1), .session 0 .send, .session 0 (.perform true), .session 0 .read,
   .acquire 2 0, .enterSlot 2 0, .connect 2 none,
   .session 1 (.enter 0), .session 1 .send, .session 1 (.perform true), .session 1 .read,
   .acquire 2 1, .enterSlot 2 1, .session 1 (.enter 1), .session 1 .send]

theorem advisory_locks_waitingRun :
    (Run.run step {} waitingRun).sessions.map (fun r => (r.operation, r.wants, r.locks)) =
        [(1, none, {1}), (2, some 1, {0})] ∧
      (Run.run step {} waitingRun).Safe ∧ (Run.run step {} waitingRun).Orderly := by
  obtain ⟨hsafe, horderly⟩ := advisory_locks waitingRun
  exact ⟨by decide +kernel, hsafe, horderly (by decide +kernel)⟩

/-! ### An acquisition that enters a poisoned session -/

/-- The first acquisition of an operation is cancelled after the database has granted its lock,
while a second one waits for the session. The second then waits for a lock of another operation
that waits for the first lock. -/
def crossedRun : List (Event ℕ) :=
  [.acquire 1 1, .enterSlot 1 1, .connect 1 none,
   .session 0 (.enter 1), .session 0 .send, .session 0 (.perform true),
   .acquire 1 0, .enterSlot 1 0, .session 0 .cancelHolder,
   .acquire 2 0, .enterSlot 2 0, .connect 2 none,
   .session 1 (.enter 0), .session 1 .send, .session 1 (.perform true), .session 1 .read,
   .session 0 (.enter 0), .session 0 .send,
   .acquire 2 1, .enterSlot 2 1, .session 1 (.enter 1), .session 1 .send]

theorem sessions_crossedRun :
    (Run.run step {} crossedRun).sessions.map (fun r => (r.operation, r.wants, r.locks)) =
      [(1, some 0, {1}), (2, some 1, {0})] := by
  decide +kernel

/-- The two operations wait for one another. -/
theorem not_orderly_crossedRun :
    ¬ ∀ events : List (Event ℕ), (Run.run step {} events).Safe ∧
      (Run.run step {} events).Orderly := by
  intro h
  have hrun := sessions_crossedRun
  obtain ⟨r, l, hsessions, hr, hl⟩ := List.map_eq_cons_iff.mp hrun
  obtain ⟨r', l', rfl, hr', hl'⟩ := List.map_eq_cons_iff.mp hl
  obtain rfl := List.map_eq_nil_iff.mp hl'
  simp only [Prod.mk.injEq] at hr hr'
  obtain ⟨hop, hwants, hlocks⟩ := hr
  obtain ⟨hop', hwants', hlocks'⟩ := hr'
  set w := Run.run step {} crossedRun with hw
  have hwaits : w.Waits 1 0 :=
    ⟨0, 1, r, r', by simp [hsessions], by simp [hsessions], by omega, hop, hwants,
      by simp [hlocks']⟩
  have hwaits' : w.Waits 2 1 :=
    ⟨1, 0, r', r, by simp [hsessions], by simp [hsessions], by omega, hop', hwants',
      by simp [hlocks]⟩
  have hholds : w.Holds 1 1 := ⟨r, by simp [hsessions], hop, by simp [hlocks]⟩
  have hholds' : w.Holds 2 0 := ⟨r', by simp [hsessions], hop', by simp [hlocks']⟩
  exact (h crossedRun).2.acyclic 1
    (.tail (.single ⟨0, hwaits, hholds'⟩) ⟨1, hwaits', hholds⟩)

end Rerouter.Advisory
