import Mathlib.Data.Multiset.OrderedMonoid
import Rerouter.AdvisorySessions

/-!
# Runs of the advisory locks

The locks of the database exclude one another between sessions, and an operation has one session
with a connection at a time: this is kept by every step (`Rerouter.Advisory.System.Sound.step`).
-/

namespace Rerouter.Advisory

variable {L : Type*}

namespace Session

variable [LinearOrder L] {r : Session L} {label : L}

/-! ### What an event leaves as it is -/

theorem operation_step (e : SessionEvent L) : (r.step e).operation = r.operation := by
  cases e with
  | enter label =>
    simp only [Session.step, Session.enter]
    split_ifs <;> rfl
  | send =>
    simp only [Session.step, Session.send]
    split <;> rfl
  | perform granted =>
    simp only [Session.step]
    split <;> rfl
  | read =>
    rcases hb : r.answer with _ | b
    · simp [Session.step, hb]
    -- a failed statement poisons, and so does a refused release
    · simp only [Session.step, hb, Option.elim_some, Session.read]
      split
      · split_ifs <;> rfl
      · split_ifs <;> rfl
      · rfl
  | cancelHolder =>
    simp only [Session.step, Session.cancel]
    split <;> rfl
  | cancelAcquire label => rfl
  | dropGuard label | release label | enterRelease label | cancelRelease label =>
    simp only [Session.step]
    split_ifs <;> rfl

/-- A poisoned session stays poisoned, and is given to no acquisition. -/
theorem step_of_poisoned (hp : r.poisoned = true) (e : SessionEvent L) :
    (r.step e).poisoned = true ∧ (r.step e).acquires ≤ r.acquires := by
  cases e with
  | enter label =>
    simp only [Session.step, Session.enter]
    split_ifs
    · exact ⟨hp, Multiset.erase_le _ _⟩
    · exact ⟨hp, Multiset.erase_le _ _⟩
    · exact ⟨hp, le_rfl⟩
  | send =>
    simp only [Session.step, Session.send]
    split <;> exact ⟨hp, le_rfl⟩
  | perform granted =>
    simp only [Session.step]
    split <;> exact ⟨hp, le_rfl⟩
  | read =>
    rcases hb : r.answer with _ | b
    · simp [Session.step, hb, hp]
    · simp only [Session.step, hb, Option.elim_some, Session.read]
      split
      · split_ifs
        · exact ⟨hp, le_rfl⟩
        · exact ⟨rfl, le_rfl⟩
      · split_ifs
        · exact ⟨hp, le_rfl⟩
        · exact ⟨rfl, le_rfl⟩
      · exact ⟨hp, le_rfl⟩
  | cancelHolder =>
    simp only [Session.step, Session.cancel]
    split
    · exact ⟨rfl, le_rfl⟩
    · exact ⟨rfl, le_rfl⟩
    · exact ⟨rfl, le_rfl⟩
    · exact ⟨rfl, le_rfl⟩
    · exact ⟨hp, le_rfl⟩
  | cancelAcquire label => exact ⟨hp, Multiset.erase_le _ _⟩
  | dropGuard label | cancelRelease label =>
    simp only [Session.step]
    split_ifs
    · exact ⟨rfl, le_rfl⟩
    · exact ⟨hp, le_rfl⟩
  | release label | enterRelease label =>
    simp only [Session.step]
    split_ifs <;> exact ⟨hp, le_rfl⟩

omit [LinearOrder L] in
theorem locks_of_lease {r' : Session L} (h : r'.lease = r.lease) : r'.locks = r.locks := by
  simp only [Session.locks, h]

/-- A new lock is one that the session waited for, and that was granted. -/
theorem mem_locks_step {e : SessionEvent L} (hmem : label ∈ (r.step e).locks) :
    label ∈ r.locks ∨ (e = .perform true ∧ r.wants = some label) := by
  cases e with
  | enter label' =>
    -- only a granted statement adds a lock; all else leaves the locks or drops some
    refine .inl ?_
    simp only [Session.step, Session.enter] at hmem
    split_ifs at hmem <;> exact hmem
  | send =>
    refine .inl ?_
    simp only [Session.step, Session.send] at hmem
    split at hmem
    · rename_i hheld
      simpa [Session.locks, hheld] using hmem
    · exact hmem
  | perform granted =>
    rcases hlease : r.lease with k | _ | _
    · rcases k with ⟨_ | (label' | label'), answer, locks⟩
      · exact .inl (by simpa [Session.step, hlease, Session.locks, Connection.perform] using hmem)
      · cases granted
        · exact .inl (by simpa [Session.step, hlease, Session.locks, Connection.perform] using hmem)
        · have hcons : label = label' ∨ label ∈ locks := by
            simpa [Session.step, hlease, Session.locks, Connection.perform] using hmem
          rcases hcons with rfl | hold
          · exact .inr ⟨rfl, by simp [Session.wants, hlease]⟩
          · exact .inl (by simpa [Session.locks, hlease] using hold)
      · refine .inl ?_
        simp only [Session.step, hlease, Session.locks, Connection.perform] at hmem ⊢
        split_ifs at hmem
        · exact Multiset.mem_of_mem_erase hmem
        · exact hmem
    · simp [Session.step, hlease, Session.locks] at hmem
    · simp [Session.step, hlease, Session.locks] at hmem
  | read =>
    refine .inl ?_
    rcases hb : r.answer with _ | b
    · simpa [Session.step, hb] using hmem
    · simp only [Session.step, hb, Option.elim_some] at hmem
      rwa [locks_of_lease lease_read] at hmem
  | cancelHolder =>
    refine .inl ?_
    simp only [Session.step] at hmem
    rwa [locks_of_lease lease_cancel] at hmem
  | cancelAcquire label => exact .inl hmem
  | dropGuard label | release label | enterRelease label | cancelRelease label =>
    refine .inl ?_
    simp only [Session.step] at hmem
    split_ifs at hmem <;> exact hmem

theorem locks_drop : r.drop.locks = 0 := by
  simp only [Session.drop, Session.locks]
  split_ifs <;> rfl

end Session

/-! ### Operations, sessions and the pool -/

/-- What holds in every state. -/
structure System.Sound (w : System L) : Prop where
  sessions : ∀ (s : ℕ) (r : Session L), w.sessions[s]? = some r → r.Sound
  /-- An idle connection holds no lock. -/
  pool : ∀ k ∈ w.pool, k.command = none ∧ k.locks = 0
  /-- A lock is held by one session. -/
  apart : ∀ (s s' : ℕ) (r r' : Session L) label, w.sessions[s]? = some r →
    w.sessions[s']? = some r' →
    label ∈ r.locks → label ∈ r'.locks → s = s'
  /-- A session with a connection is that of its operation. -/
  owned : ∀ (s : ℕ) (r : Session L) k, w.sessions[s]? = some r → r.lease = .held k →
    (w.operations r.operation).session = some s ∨ (w.operations r.operation).ended = true
  connecting : ∀ o, (w.operations o).connecting ≠ none →
    (w.operations o).session = none ∧ (w.operations o).ended = false
  ended : ∀ o, (w.operations o).ended = true → (w.operations o).acquires = 0 ∧
    (w.operations o).connecting = none
  /-- An operation has one session with a connection. -/
  alone : ∀ (s s' : ℕ) (r r' : Session L) k k', w.sessions[s]? = some r →
    w.sessions[s']? = some r' →
    r.lease = .held k → r'.lease = .held k' → r.operation = r'.operation → s = s'

/-- The session of an operation has its connection. -/
def System.Slotted (w : System L) : Prop :=
  ∀ o s, (w.operations o).session = some s →
    ∃ r k, w.sessions[s]? = some r ∧ r.lease = .held k ∧ r.operation = o

namespace System

variable {w : System L} {o s : ℕ} {r : Session L} {op : Operation L}

theorem sound_init : ({} : System L).Sound where
  sessions := by simp
  pool := by simp
  apart := by simp
  owned := by simp
  connecting := by simp
  ended := by simp
  alone := by simp

theorem Sound.setOperation (h : w.Sound)
    (howned : (w.operations o).session ≠ op.session → op.ended = true ∨
      ∀ (s : ℕ) (r : Session L) k, w.sessions[s]? = some r →
      r.lease = .held k → r.operation ≠ o)
    (hkeep : (w.operations o).ended = true → op.ended = true)
    (hconnecting : op.connecting ≠ none → op.session = none ∧ op.ended = false)
    (hended : op.ended = true → op.acquires = 0 ∧ op.connecting = none) :
    (w.setOperation o op).Sound where
  sessions := h.sessions
  pool := h.pool
  apart := h.apart
  owned s r k hs hk := by
    by_cases ho : r.operation = o
    -- the session of the operation is the one that was there, or had no connection
    · subst ho
      simp only [System.setOperation, Function.update_self]
      by_cases hsession : (w.operations r.operation).session = op.session
      · rw [← hsession]
        exact (h.owned s r k hs hk).imp_right hkeep
      · rcases howned hsession with hend | hnone
        · exact .inr hend
        · exact absurd rfl (hnone s r k hs hk)
    · simpa only [System.setOperation, Function.update_of_ne ho] using h.owned s r k hs hk
  connecting o' := by
    by_cases ho : o' = o
    · subst ho
      simpa only [System.setOperation, Function.update_self] using hconnecting
    · simpa only [System.setOperation, Function.update_of_ne ho] using h.connecting o'
  ended o' := by
    by_cases ho : o' = o
    · subst ho
      simpa only [System.setOperation, Function.update_self] using hended
    · simpa only [System.setOperation, Function.update_of_ne ho] using h.ended o'
  alone := h.alone

/-- A change of the calls that wait for the slot, of an operation that has not ended. -/
theorem Sound.setAcquires (h : w.Sound) {acquires : Multiset L}
    (hended : (w.operations o).ended = true → acquires = 0) :
    (w.setOperation o { w.operations o with acquires }).Sound := by
  refine h.setOperation (fun hne => absurd rfl hne) id (h.connecting o) fun hend => ?_
  exact ⟨hended hend, (h.ended o hend).2⟩

theorem getElem?_setSession {s' : ℕ} {r' : Session L} (hs : w.sessions[s]? = some r) :
    (w.setSession s r').sessions[s']? = if s = s' then some r' else w.sessions[s']? := by
  have hlt : s < w.sessions.length := (List.getElem?_eq_some_iff.mp hs).1
  simp [System.setSession, List.getElem?_set, hlt]

/-- Something happens to one session. -/
theorem Sound.setSession {r' : Session L} (h : w.Sound) (hs : w.sessions[s]? = some r)
    (hr : r'.Sound)
    (hoperation : r'.operation = r.operation)
    (hlease : ∀ k', r'.lease = .held k' → ∃ k, r.lease = .held k)
    (hlocks : ∀ label ∈ r'.locks, label ∈ r.locks ∨ w.Grantable s label) :
    (w.setSession s r').Sound where
  sessions s' r'' hs' := by
    rw [getElem?_setSession hs] at hs'
    split_ifs at hs'
    · cases hs'
      exact hr
    · exact h.sessions s' r'' hs'
  pool := h.pool
  apart := by
    -- a lock that is new to the session is held by no other
    have hnew : ∀ s' r'' label, s' ≠ s → w.sessions[s']? = some r'' → label ∈ r'.locks →
      label ∉ r''.locks := by
      intro s' r'' label hne hs' hmem hmem'
      rcases hlocks label hmem with hold | hgrant
      · exact hne (h.apart s' s r'' r label hs' hs hmem' hold)
      · exact hgrant.1 s' (List.getElem?_eq_some_iff.mp hs').1 hne r'' hs' hmem'
    intro s₁ s₂ r₁ r₂ label h₁ h₂ hmem₁ hmem₂
    rw [getElem?_setSession hs] at h₁ h₂
    split_ifs at h₁ h₂ with heq₁ heq₂ heq₂
    · exact heq₁.symm.trans heq₂
    · cases h₁
      exact absurd hmem₂ (hnew s₂ r₂ label (Ne.symm heq₂) h₂ hmem₁)
    · cases h₂
      exact absurd hmem₁ (hnew s₁ r₁ label (Ne.symm heq₁) h₁ hmem₂)
    · exact h.apart s₁ s₂ r₁ r₂ label h₁ h₂ hmem₁ hmem₂
  owned s' r'' k hs' hk := by
    rw [getElem?_setSession hs] at hs'
    split_ifs at hs' with heq
    · cases hs'
      obtain ⟨k', hk'⟩ := hlease k hk
      subst heq
      rw [hoperation]
      exact h.owned s r k' hs hk'
    · exact h.owned s' r'' k hs' hk
  connecting := h.connecting
  ended := h.ended
  alone := by
    have hold : ∀ s' r'' k, (if s = s' then some r' else w.sessions[s']?) = some r'' →
      r''.lease = .held k →
        ∃ r₀ k₀, w.sessions[s']? = some r₀ ∧ r₀.lease = .held k₀ ∧
          r₀.operation = r''.operation := by
      intro s' r'' k hs' hk
      split_ifs at hs' with heq
      · cases hs'
        obtain ⟨k', hk'⟩ := hlease k hk
        exact ⟨r, k', heq ▸ hs, hk', hoperation.symm⟩
      · exact ⟨r'', k, hs', hk, rfl⟩
    intro s₁ s₂ r₁ r₂ k₁ k₂ h₁ h₂ hk₁ hk₂ hop
    rw [getElem?_setSession hs] at h₁ h₂
    obtain ⟨r₁', k₁', h₁', hk₁', hop₁⟩ := hold s₁ r₁ k₁ h₁ hk₁
    obtain ⟨r₂', k₂', h₂', hk₂', hop₂⟩ := hold s₂ r₂ k₂ h₂ hk₂
    exact h.alone s₁ s₂ r₁' r₂' k₁' k₂' h₁' h₂' hk₁' hk₂' (by rw [hop₁, hop₂, hop])

/-- A session is dropped that nothing refers to. -/
theorem Sound.dropSession [LinearOrder L] (h : w.Sound) (hs : w.sessions[s]? = some r)
    (href : ¬ r.Referenced) :
    (w.dropSession s r).Sound := by
  unfold System.dropSession
  split
  · rename_i k hk
    have hdrop : (w.setSession s r.drop).Sound := by
      refine h.setSession hs (Session.Sound.drop href) rfl (fun k' _ => ⟨k, hk⟩) fun label hmem =>
        ?_
      rw [Session.locks_drop] at hmem
      exact absurd hmem (Multiset.notMem_zero _)
    split_ifs with hreturned
    · refine ⟨hdrop.sessions, fun k' hk' => ?_, hdrop.apart, hdrop.owned,
        hdrop.connecting, hdrop.ended, hdrop.alone⟩
      rcases List.mem_cons.mp hk' with rfl | hk'
      · exact (h.sessions s r hs).locks_eq_zero href hk hreturned
      · exact h.pool k' hk'
    · exact hdrop
  · exact h

/-- A session is made for the call that waits for its connection. -/
theorem Sound.connect [LinearOrder L] {label : L} {k : Connection L} (h : w.Sound)
    (hconnecting : (w.operations o).connecting ≠ none) (hk : k.command = none ∧ k.locks = 0) :
    (w.connect o label k).Sound := by
  obtain ⟨hnone, hend⟩ := h.connecting o hconnecting
  obtain ⟨hcommand, hlocks⟩ := hk
  -- no session of the operation has a connection
  have hidle : ∀ (s : ℕ) (r : Session L) k, w.sessions[s]? = some r → r.lease = .held k →
    r.operation ≠ o := by
    rintro s r k' hs hk' rfl
    have howned := h.owned s r k' hs hk'
    simp [hnone, hend] at howned
  have hop : (w.setOperation o
      { w.operations o with session := some w.sessions.length, connecting := none }).Sound :=
    h.setOperation (fun _ => .inr hidle) (by simp [hend]) (by simp) (by simp [hend])
  let r₀ : Session L := { operation := o, lease := .held k, acquires := {label} }
  have hr₀ : r₀.Sound := by
    refine ⟨fun _ => ⟨k, rfl⟩, fun k' hk' => ?_, by simp [r₀]⟩
    cases hk'
    refine ⟨by simp [r₀], ?_, fun _ => ?_, by simp [hcommand]⟩
    · simp [r₀, Session.sending, Connection.leaving, Session.gained, hcommand]
    · simp [r₀, Session.gained, Session.lost, hlocks]
  have hget : ∀ (s : ℕ) (r : Session L), (w.sessions ++ [r₀])[s]? = some r →
      w.sessions[s]? = some r ∨ (s = w.sessions.length ∧ r = r₀) := by
    intro s r hs
    rw [List.getElem?_append] at hs
    split_ifs at hs with hlt
    · exact .inl hs
    · have hzero : s - w.sessions.length = 0 := by
        have := (List.getElem?_eq_some_iff.mp hs).1
        simp only [List.length_singleton] at this
        omega
      rw [hzero] at hs
      exact .inr ⟨by omega, by simpa [eq_comm] using hs⟩
  have hempty : r₀.locks = 0 := hlocks
  refine ⟨fun s r hs => ?_, h.pool, ?_, ?_, hop.connecting, hop.ended, ?_⟩
  · rcases hget s r hs with hs | ⟨-, rfl⟩
    · exact h.sessions s r hs
    · exact hr₀
  · intro s₁ s₂ r₁ r₂ label' h₁ h₂ hmem₁ hmem₂
    rcases hget s₁ r₁ h₁ with h₁ | ⟨-, rfl⟩
    · rcases hget s₂ r₂ h₂ with h₂ | ⟨-, rfl⟩
      · exact h.apart s₁ s₂ r₁ r₂ label' h₁ h₂ hmem₁ hmem₂
      · simp [hempty] at hmem₂
    · simp [hempty] at hmem₁
  · intro s r k' hs hk'
    rcases hget s r hs with hs | ⟨rfl, rfl⟩
    · exact hop.owned s r k' hs hk'
    · simp [System.connect, System.setOperation, r₀]
  · intro s₁ s₂ r₁ r₂ k₁ k₂ h₁ h₂ hk₁ hk₂ heq
    rcases hget s₁ r₁ h₁ with h₁ | ⟨rfl, rfl⟩
    · rcases hget s₂ r₂ h₂ with h₂ | ⟨rfl, rfl⟩
      · exact h.alone s₁ s₂ r₁ r₂ k₁ k₂ h₁ h₂ hk₁ hk₂ heq
      · exact absurd heq (hidle s₁ r₁ k₁ h₁ hk₁)
    · rcases hget s₂ r₂ h₂ with h₂ | ⟨rfl, rfl⟩
      · exact absurd heq.symm (hidle s₂ r₂ k₂ h₂ hk₂)
      · rfl

theorem lease_drop (r : Session L) (k : Connection L) [DecidableEq L] : r.drop.lease ≠ .held k := by
  simp only [Session.drop]
  split_ifs <;> simp

variable [LinearOrder L] {label : L}

theorem dropSession_setOperation :
    (w.setOperation o op).dropSession s r = (w.dropSession s r).setOperation o op := by
  unfold System.dropSession
  split
  · split_ifs <;> rfl
  · rfl

theorem sessions_dropSession {k : Connection L} (hk : r.lease = .held k) :
    (w.dropSession s r).sessions = (w.setSession s r.drop).sessions := by
  simp only [System.dropSession, hk]
  split_ifs <;> rfl

theorem operations_dropSession : (w.dropSession s r).operations = w.operations := by
  unfold System.dropSession
  split
  · split_ifs <;> rfl
  · rfl

/-- An acquisition that has locked the slot of its operation. -/
theorem Sound.enterSlot (h : w.Sound) (hslot : w.Slotted) (hend : (w.operations o).ended = false) :
    (w.enterSlot o label).Sound := by
  unfold System.enterSlot
  split
  · rename_i hnone
    exact h.setOperation (fun hne => absurd rfl hne) id (fun _ => ⟨hnone, hend⟩) (by simp [hend])
  · rename_i s hsession
    obtain ⟨r, k, hs, hk, hop⟩ := hslot o s hsession
    simp only [hs]
    split_ifs with hpoisoned hfree
    · refine h.setSession hs ?_ rfl (fun k' hk' => ⟨k', hk'⟩) fun label' hmem => .inl hmem
      have hr := h.sessions s r hs
      refine ⟨fun _ => ⟨k, hk⟩, fun k' hk' => ?_, hr.closed⟩
      have hheld := hr.held k' hk'
      exact ⟨hheld.sent, hheld.backed, hheld.synced, hheld.quiet⟩
    · rw [dropSession_setOperation]
      have hdrop := h.dropSession hs hfree.2.2
      refine hdrop.setOperation (fun _ => .inr fun s' r' k' hs' hk' hop' => ?_) (by
        rw [operations_dropSession]
        exact id) (fun _ => ⟨rfl, hend⟩) (by simp [hend])
      -- another session of the operation with a connection
      rw [sessions_dropSession hk, getElem?_setSession hs] at hs'
      split_ifs at hs' with heq
      · cases hs'
        exact lease_drop r k' hk'
      · exact heq (h.alone s s' r r' k k' hs hs' hk hk' (hop.trans hop'.symm))
    · exact h

/-- What the database grants to a session is held by no other. -/
theorem mem_locks_granted {e : SessionEvent L} (hmem : label ∈ (r.step (w.granted s r e)).locks) :
    label ∈ r.locks ∨ w.Grantable s label := by
  refine (Session.mem_locks_step hmem).imp_right fun hgrant => ?_
  obtain ⟨hperform, hwants⟩ := hgrant
  cases e with
  | perform granted =>
    simp only [System.granted, SessionEvent.perform.injEq, Bool.and_eq_true, hwants,
      Option.all_some, decide_eq_true_eq] at hperform
    exact hperform.2
  | _ => simp [System.granted] at hperform

/-- **What holds in every state is kept by every step.** -/
theorem Sound.step (h : w.Sound) (hslot : w.Slotted) (e : Event L) : (step w e).Sound := by
  cases e with
  | acquire o label =>
    simp only [Advisory.step]
    split_ifs with hend
    · exact h
    · exact h.setAcquires fun hend' => absurd hend' hend
  | enterSlot o label =>
    simp only [Advisory.step]
    split_ifs with hcan
    -- an operation that has ended has no acquisitions left that could enter
    · have hend : (w.operations o).ended = false := by
        by_contra hne
        have hzero := (h.ended o (by simpa using hne)).1
        simp [hzero] at hcan
      refine (h.setAcquires fun hend' => by simp [hend] at hend').enterSlot (fun o' s hs => ?_) ?_
      · refine hslot o' s ?_
        by_cases ho : o' = o
        · subst ho
          simpa [System.setOperation] using hs
        · simpa [System.setOperation, Function.update_of_ne ho] using hs
      · simpa [System.setOperation] using hend
    · exact h
  | connect o idle =>
    simp only [Advisory.step]
    split
    · exact h
    · rename_i hconnecting
      exact h.connect (by simp [hconnecting]) ⟨rfl, rfl⟩
    · rename_i label i hconnecting
      split
      · exact h
      · rename_i k hk
        -- a pooled connection has no lock, so its new session starts with none
        have hpool := h.pool k (List.mem_of_getElem? hk)
        have hrest : ({ w with pool := w.pool.eraseIdx i } : System L).Sound :=
          ⟨h.sessions, fun k' hk' => h.pool k' (List.mem_of_mem_eraseIdx hk'), h.apart, h.owned,
            h.connecting, h.ended, h.alone⟩
        exact hrest.connect (by simp [hconnecting]) hpool
  | cancelSlot o label =>
    refine h.setAcquires fun hend => ?_
    simp [(h.ended o hend).1]
  | cancelConnecting o =>
    exact h.setOperation (fun hne => absurd rfl hne) id (by simp) fun hend =>
      ⟨(h.ended o hend).1, rfl⟩
  | session s e =>
    simp only [Advisory.step]
    split
    · exact h
    · rename_i r hs
      refine h.setSession hs ((h.sessions s r hs).step _) (Session.operation_step _)
        (fun k' hk' => ?_)
        fun label hmem => mem_locks_granted hmem
      -- a session that got a connection by this step would be one that nothing refers to
      by_contra hnone
      rw [not_exists] at hnone
      have href : ¬ r.Referenced :=
        fun href => (not_exists.mpr hnone) ((h.sessions s r hs).leased href)
      rw [Session.step_of_not_referenced href hnone] at hk'
      exact hnone k' hk'
  | endOperation o =>
    simp only [Advisory.step]
    split_ifs with hbusy
    · exact h
    · simp only [System.Busy, ne_eq, not_or, not_not] at hbusy
      -- an operation ends when nothing of it is under way
      exact h.setOperation (fun _ => .inl rfl) (fun _ => rfl) (by simp [hbusy.2.1]) fun _ =>
        ⟨hbusy.1, hbusy.2.1⟩
  | dropSession s =>
    simp only [Advisory.step]
    split
    · exact h
    · rename_i r hs
      split_ifs with hcan
      · exact h.dropSession hs hcan.2
      · exact h

omit [LinearOrder L] in
/-- The slot of another operation, or of one that keeps its session. -/
theorem Slotted.setOperation (hslot : w.Slotted)
    (hsession : op.session = (w.operations o).session ∨ op.session = none) :
    (w.setOperation o op).Slotted := by
  intro o' s hs
  by_cases ho : o' = o
  · subst ho
    simp only [System.setOperation, Function.update_self] at hs
    rcases hsession with hsame | hnone
    · exact hslot o' s (by rw [← hsame, hs])
    · simp [hnone] at hs
  · simp only [System.setOperation, Function.update_of_ne ho] at hs
    exact hslot o' s hs

omit [LinearOrder L] in
theorem Slotted.setSession {r' : Session L} (hslot : w.Slotted) (hs : w.sessions[s]? = some r)
    (hoperation : r'.operation = r.operation)
    (hlease : (∃ k, r.lease = .held k) → (∃ k, r'.lease = .held k) ∨
      (w.operations r.operation).session ≠ some s) :
    (w.setSession s r').Slotted := by
  intro o' s' hs'
  obtain ⟨r₀, k, hr₀, hk, hop⟩ := hslot o' s' hs'
  by_cases heq : s = s'
  · subst heq
    obtain rfl : r₀ = r := by simpa [hr₀] using hs
    rcases hlease ⟨k, hk⟩ with ⟨k', hk'⟩ | hne
    · exact ⟨r', k', by rw [getElem?_setSession hs, if_pos rfl], hk', hoperation.trans hop⟩
    · exact absurd (hop ▸ hs') hne
  · exact ⟨r₀, k, by rw [getElem?_setSession hs, if_neg heq, hr₀], hk, hop⟩

theorem Slotted.dropSession (hslot : w.Slotted) (hs : w.sessions[s]? = some r)
    (hne : (w.operations r.operation).session ≠ some s) : (w.dropSession s r).Slotted := by
  unfold System.dropSession
  split
  · have hdrop : (w.setSession s r.drop).Slotted := hslot.setSession hs rfl fun _ => .inr hne
    split_ifs
    · exact hdrop
    · exact hdrop
  · exact hslot

omit [LinearOrder L] in
theorem Slotted.connect {k : Connection L} (hslot : w.Slotted) : (w.connect o label k).Slotted := by
  intro o' s hs
  by_cases ho : o' = o
  · subst ho
    simp only [System.connect, System.setOperation, Function.update_self, Option.some.injEq] at hs
    subst hs
    exact ⟨_, k, List.getElem?_concat_length, rfl, rfl⟩
  · simp only [System.connect, System.setOperation, Function.update_of_ne ho] at hs
    obtain ⟨r, k', hr, hk', hop⟩ := hslot o' s hs
    refine ⟨r, k', ?_, hk', hop⟩
    rw [← hr]
    exact List.getElem?_append_left (List.getElem?_eq_some_iff.mp hr).1

theorem Slotted.enterSlot (hslot : w.Slotted) : (w.enterSlot o label).Slotted := by
  unfold System.enterSlot
  split
  · exact hslot.setOperation (.inl rfl)
  · rename_i s hsession
    obtain ⟨r, k, hs, hk, hop⟩ := hslot o s hsession
    simp only [hs]
    split_ifs
    · exact hslot.setSession hs rfl fun hlease => .inl hlease
    · refine (hslot.setOperation (.inr rfl)).dropSession hs ?_
      simp [System.setOperation, hop]
    · exact hslot

/-- The session of an operation keeps its connection. -/
theorem Slotted.step (hslot : w.Slotted) (h : w.Sound) (e : Event L) : (step w e).Slotted := by
  cases e with
  | acquire o label =>
    simp only [Advisory.step]
    split_ifs
    · exact hslot
    · exact hslot.setOperation (.inl rfl)
  | enterSlot o label =>
    simp only [Advisory.step]
    split_ifs
    · refine Slotted.enterSlot (hslot.setOperation ?_)
      exact .inl rfl
    · exact hslot
  | connect o idle =>
    simp only [Advisory.step]
    split
    · exact hslot
    · exact hslot.connect
    · split
      · exact hslot
      · exact Slotted.connect hslot
  | cancelSlot o label => exact hslot.setOperation (.inl rfl)
  | cancelConnecting o => exact hslot.setOperation (.inl rfl)
  | session s e =>
    simp only [Advisory.step]
    split
    · exact hslot
    · rename_i r hs
      -- the session had a connection, and a step of its own takes none away
      refine hslot.setSession hs (Session.operation_step _) fun hlease => .inl ?_
      obtain ⟨k, hk⟩ := hlease
      obtain ⟨k', hk', -⟩ := ((h.sessions s r hs).held k hk).step hk (w.granted s r e)
      exact ⟨k', hk'⟩
  | endOperation o =>
    simp only [Advisory.step]
    split_ifs
    · exact hslot
    · exact hslot.setOperation (.inr rfl)
  | dropSession s =>
    simp only [Advisory.step]
    split
    · exact hslot
    · rename_i r hs
      split_ifs with hcan
      · exact hslot.dropSession hs hcan.1
      · exact hslot

end System

end Rerouter.Advisory
