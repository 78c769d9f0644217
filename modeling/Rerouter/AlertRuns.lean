import Rerouter.AlertDispatcher
import Rerouter.Lib.Run

/-!
# What becomes of an alert intent

In every run of the dispatcher, whatever statement fails and wherever the process stops, a
settled intent never changes again, an intent with a `sent` attempt on record is not sent again, a
permanent failure is reported once, and an intent that is not settled may be taken up again
(`Rerouter.Alerts.delivery_contract`).

The number of times an intent is sent is bounded only by what interrupts its attempts: the counter
is raised before the send, but it is read only after a send that failed. A pass that is
interrupted after the last attempt was counted leaves an open intent with no attempts left, and
the next pass sends it all the same.
-/

namespace Rerouter.Alerts

open Text Tables

/-! ### What is to hold -/

/-- The alerts about an intent that was given up. -/
def Tables.secondaries (t : Tables) (id : ℕ) : ℕ :=
  t.alerts.countP fun a => decide (a.eventType = permanentlyFailed) && decide (a.dedupKey =
      secondaryKey id)

/-- An alert that is itself about an intent that was given up. -/
def Tables.isSecondary (t : Tables) (alert : ℕ) : Bool :=
  t.alerts[alert]?.any fun a => decide (a.eventType = permanentlyFailed)

/-- The secondary alerts an intent is to have. -/
def Tables.owedSecondaries (t : Tables) (i : Intent) : ℕ :=
  if i.outcome = some .permanentFailure ∧ t.isSecondary i.alert = false then 1 else 0

/-- **A settled intent never changes again.** -/
def SettledKept (w : Dispatcher) (e : Event) : Prop :=
  ∀ (id : ℕ) (i : Intent), w.tables.intents[id]? = some i → i.state = .settled →
    (step w e).tables.intents[id]? = some i

/-- **What was sent is not sent again.** -/
def SentOnce (w : Dispatcher) (e : Event) : Prop :=
  ∀ id, w.tables.alreadySent id = true → (step w e).tables.sends.count id = w.tables.sends.count id

/-- **No intent is sent more often than there are attempts.** -/
def Bounded (w : Dispatcher) : Prop := ∀ id, w.tables.sends.count id ≤ maxDeliveryAttempts

/-- **A permanent failure settles the intent and is reported once**, and that of a report is not
reported. -/
def Reported (w : Dispatcher) : Prop :=
  ∀ (id : ℕ) (i : Intent), w.tables.intents[id]? = some i →
    (i.outcome = some .permanentFailure → i.state = .settled) ∧
      w.tables.secondaries id = w.tables.owedSecondaries i

/-- **What is not settled is taken up again**: left alone, it may be claimed from a time on. -/
def Released (w : Dispatcher) : Prop :=
  ∀ (id : ℕ) (i : Intent), w.tables.intents[id]? = some i → i.isOpen = true →
    ∀ later, w.now + retryBackoffSecs < later → selectable later i = true

/-! ### Interruptions -/

/-- A stage that an interruption leaves attempts to: `count` attempts were made before it. -/
def Stage.interruptible (stage : Stage) (applied : Bool) (count : ℕ) : Bool :=
  match stage with
  | .start => !applied || decide (count + 1 < maxDeliveryAttempts)
  | .send | .record .failed => decide (count < maxDeliveryAttempts)
  | .record .sent | .giveUp => applied || decide (count < maxDeliveryAttempts)
  | _ => true

/-- The attempts an intent has made. -/
def Tables.attempts (t : Tables) (id : ℕ) : ℕ := (t.intents[id]?.map Intent.attemptCount).getD 0

/-- **The last attempt of an intent is not interrupted** before it is settled or on record as
sent. -/
def undisturbed (w : Dispatcher) (e : Event) : Bool :=
  match e, w.process with
  | .run _ (.failed applied), .processing d _ stage _ =>
    decide (stage = .send) || stage.interruptible applied (w.tables.attempts d.id)
  | .run _ (.stopped applied), .processing d _ stage _ =>
    stage.interruptible applied (w.tables.attempts d.id)
  | _, _ => true

/-! ### Rows -/

section Rows

variable {t : Tables} {id k : ℕ} {p : Intent → Bool} {f : Intent → Intent} {i : Intent}

theorem getElem?_updateIntent :
    (t.updateIntent id p f).intents[k]? =
      if k = id then t.intents[k]?.map (fun i => if p i then f i else i) else t.intents[k]? := by
  rw [updateIntent, List.getElem?_modify]
  rcases eq_or_ne k id with rfl | hne
  · simp
  · simp [hne, hne.symm]

/-- A row after an update is as it was, or was updated. -/
theorem of_getElem?_updateIntent (h : (t.updateIntent id p f).intents[k]? = some i) :
    t.intents[k]? = some i ∨ k = id ∧ ∃ old, t.intents[k]? = some old ∧ p old = true ∧
      i = f old := by
  rw [getElem?_updateIntent] at h
  split at h
  case isTrue hk =>
    obtain ⟨old, hold, rfl⟩ := Option.map_eq_some_iff.mp h
    split
    case isTrue hp => exact Or.inr ⟨hk, old, hold, hp, rfl⟩
    case isFalse => exact Or.inl hold
  case isFalse => exact Or.inl h

theorem length_updateIntent : (t.updateIntent id p f).intents.length = t.intents.length :=
  List.length_modify ..

/-- A row that an insertion finds, and one it adds. -/
theorem of_getElem?_insertIntent {row : Intent} (h : (t.insertIntent row).intents[k]? = some i) :
    t.intents[k]? = some i ∨ k = t.intents.length ∧ i = row := by
  rw [insertIntent] at h
  split at h
  · exact Or.inl h
  · rw [List.getElem?_append] at h
    split at h
    · exact Or.inl h
    case isFalse hlt =>
      rw [List.getElem?_singleton] at h
      split at h
      case isTrue hzero => exact Or.inr ⟨by omega, (Option.some.inj h).symm⟩
      case isFalse => cases h

theorem getElem?_insertIntent {row : Intent} (h : t.intents[k]? = some i) :
    (t.insertIntent row).intents[k]? = some i := by
  rw [insertIntent]
  split
  · exact h
  · exact List.getElem?_append_left (List.getElem?_eq_some_iff.mp h).1 ▸ h

end Rows

/-! ### The tables -/

/-- A row of the intents, at a time when `tokens` claims have been given out. -/
structure RowOk (t : Tables) (now tokens id : ℕ) (i : Intent) : Prop where
  alert : i.alert < t.alerts.length
  unclaimed : i.state = .settled → i.claim = none
  settled : i.outcome = some .permanentFailure → i.state = .settled
  claim : ∀ c, i.claim = some c → c.token < tokens ∧ c.claimedAt ≤ now
  next : i.nextAttemptAt ≤ now + retryBackoffSecs
  sends : t.sends.count id ≤ i.attemptCount
  reported : t.secondaries id = t.owedSecondaries i

/-- The tables at a time. -/
structure TablesOk (t : Tables) (now tokens : ℕ) : Prop where
  rows : ∀ (id : ℕ) (i : Intent), t.intents[id]? = some i → RowOk t now tokens id i
  sent : ∀ id ∈ t.sends, id < t.intents.length
  keys : ∀ a ∈ t.alerts, a.eventType = permanentlyFailed →
    ∃ id < t.intents.length, a.dedupKey = secondaryKey id

section Kept

variable {t : Tables} {now tokens id : ℕ} {i : Intent}

theorem RowOk.open_of_claimed (h : RowOk t now tokens id i) {token : ℕ}
    (hclaimed : claimedBy token i = true) :
    i.state ≠ .settled := by
  intro hsettled
  rw [claimedBy, h.unclaimed hsettled] at hclaimed
  cases hclaimed

/-- Nothing was reported of an intent that is open. -/
theorem RowOk.unreported (h : RowOk t now tokens id i) (hopen : i.state ≠ .settled) :
    t.secondaries id = 0 := by
  rw [h.reported, owedSecondaries, if_neg]
  rintro ⟨hfailed, -⟩
  exact hopen (h.settled hfailed)

theorem secondaryKey_inj {id k : ℕ} (h : secondaryKey id = secondaryKey k) : id = k :=
  natText_injective (List.append_cancel_left h)

theorem secondaries_append (t : Tables) (a : Alert) (id : ℕ) :
    ({ t with alerts := t.alerts ++ [a] } : Tables).secondaries id =
      t.secondaries id + if a.eventType = permanentlyFailed ∧ a.dedupKey = secondaryKey id then
        1 else 0 := by
  rw [secondaries, secondaries, List.countP_append, List.countP_singleton]
  simp

theorem isSecondary_append {a : Alert} {alert : ℕ} (h : alert < t.alerts.length) :
    ({ t with alerts := t.alerts ++ [a] } : Tables).isSecondary alert = t.isSecondary alert := by
  rw [isSecondary, isSecondary]
  dsimp only
  rw [List.getElem?_append_left h]

/-- An id that was not given out has no secondary alert. -/
theorem TablesOk.secondaries_new (h : TablesOk t now tokens) (hid : t.intents.length ≤ id) :
    t.secondaries id = 0 := by
  refine List.countP_eq_zero.mpr fun a ha => ?_
  simp only [Bool.and_eq_true, decide_eq_true_eq, not_and]
  intro htype hkey
  obtain ⟨k, hk, hkey'⟩ := h.keys a ha htype
  obtain rfl := secondaryKey_inj (hkey'.symm.trans hkey)
  omega

/-- Another part of the controller raises an alert. -/
theorem TablesOk.raise (h : TablesOk t now tokens) {a : Alert}
    (ha : a.eventType ≠ permanentlyFailed) :
    TablesOk { t with alerts := t.alerts ++ [a] } now tokens := by
  refine ⟨fun id i hi => ?_, h.sent, fun b hb htype => ?_⟩
  · obtain ⟨halert, hunclaimed, hsettled, hclaim, hnext, hsends, hreported⟩ := h.rows id i hi
    refine ⟨?_, hunclaimed, hsettled, hclaim, hnext, hsends, ?_⟩
    · rw [List.length_append]
      exact Nat.lt_add_right _ halert
    · rw [secondaries_append, if_neg fun hboth => ha hboth.1, hreported, owedSecondaries,
        owedSecondaries, isSecondary_append halert, Nat.add_zero]
  · rcases List.mem_append.mp hb with hb | hb
    · exact h.keys b hb htype
    · exact absurd (List.mem_singleton.mp hb ▸ htype) ha

theorem TablesOk.mono {now' tokens' : ℕ} (h : TablesOk t now tokens) (hnow : now ≤ now')
    (htokens : tokens ≤ tokens') :
    TablesOk t now' tokens' := by
  refine ⟨fun id i hi => ?_, h.sent, h.keys⟩
  obtain ⟨halert, hunclaimed, hsettled, hclaim, hnext, hsends, hreported⟩ := h.rows id i hi
  refine ⟨halert, hunclaimed, hsettled, fun c hc => ?_, by omega, hsends, hreported⟩
  obtain ⟨htoken, htime⟩ := hclaim c hc
  exact ⟨by omega, by omega⟩

theorem RowOk.congr {t' : Tables} (h : RowOk t now tokens id i) (halerts : t'.alerts = t.alerts)
    (hsends : t'.sends = t.sends) : RowOk t' now tokens id i := by
  obtain ⟨halert, hunclaimed, hsettled, hclaim, hnext, hcount, hreported⟩ := h
  refine ⟨?_, hunclaimed, hsettled, hclaim, hnext, ?_, ?_⟩
  · rwa [halerts]
  · rwa [hsends]
  · rw [secondaries, owedSecondaries, isSecondary, halerts]
    exact hreported

/-- An update of one row. -/
theorem TablesOk.updateIntent (h : TablesOk t now tokens) {p : Intent → Bool} {f : Intent → Intent}
    (hrow : ∀ old, p old = true → RowOk t now tokens id old → RowOk t now tokens id (f old)) :
    TablesOk (t.updateIntent id p f) now tokens := by
  refine ⟨fun k i hi => ?_, fun k hk => ?_, fun a ha htype => ?_⟩
  · rcases of_getElem?_updateIntent hi with hold | ⟨rfl, old, hold, hp, rfl⟩
    · exact (h.rows k i hold).congr rfl rfl
    · exact (hrow old hp (h.rows k old hold)).congr rfl rfl
  · rw [length_updateIntent]
    exact h.sent k hk
  · rw [length_updateIntent]
    exact h.keys a ha htype

/-- A new intent, which nothing has happened to yet. -/
theorem TablesOk.insertIntent (h : TablesOk t now tokens) {row : Intent}
    (halert : row.alert < t.alerts.length)
    (hclaim : row.claim = none) (houtcome : row.outcome ≠ some .permanentFailure)
    (hnext : row.nextAttemptAt = now) : TablesOk (t.insertIntent row) now tokens := by
  have hsame : (t.insertIntent row).alerts = t.alerts ∧ (t.insertIntent row).sends = t.sends ∧
      t.intents.length ≤ (t.insertIntent row).intents.length := by
    rw [Tables.insertIntent]
    split <;> simp
  obtain ⟨halerts, hsends, hlength⟩ := hsame
  refine ⟨fun id i hi => ?_, fun id hid => ?_, fun a ha htype => ?_⟩
  · have hsecondaries : (t.insertIntent row).secondaries id = t.secondaries id := by
      rw [secondaries, halerts, secondaries]
    have howed : (t.insertIntent row).owedSecondaries i = t.owedSecondaries i := by
      rw [owedSecondaries, isSecondary, halerts, owedSecondaries, isSecondary]
    -- a row is one of before, or the new one, which nobody has claimed and nothing was sent for
    rcases of_getElem?_insertIntent hi with hold | ⟨rfl, rfl⟩
    · exact (h.rows id i hold).congr halerts hsends
    · refine ⟨?_, fun _ => hclaim, fun hfailed => absurd hfailed houtcome, fun c hc => ?_,
        by omega, ?_, ?_⟩
      · rwa [halerts]
      · rw [hclaim] at hc
        cases hc
      · rw [hsends, List.count_eq_zero.mpr fun hmem => lt_irrefl _ (h.sent _ hmem)]
        exact Nat.zero_le _
      · rw [hsecondaries, howed, h.secondaries_new le_rfl, owedSecondaries,
          if_neg fun hboth => houtcome hboth.1]
  · rw [hsends] at hid
    exact lt_of_lt_of_le (h.sent id hid) hlength
  · rw [halerts] at ha
    obtain ⟨id, hid, hkey⟩ := h.keys a ha htype
    exact ⟨id, lt_of_lt_of_le hid hlength, hkey⟩

theorem alerts_insertIntent (t : Tables) (row : Intent) :
    (t.insertIntent row).alerts = t.alerts := by
  rw [Tables.insertIntent]
  split <;> rfl

theorem alerts_materializeAlert (t : Tables) (alert : ℕ) (audience : List (Channel × ℕ)) :
    (t.materializeAlert now alert audience).alerts = t.alerts := by
  have hfold : ∀ t : Tables, (audience.foldl (fun t a =>
      t.insertIntent ⟨alert, a.1, some a.2, .pending, none, 0, now, none⟩) t).alerts =
        t.alerts := by
    induction audience with
    | nil => exact fun t => rfl
    | cons a audience ih => exact fun t => (ih _).trans (alerts_insertIntent _ _)
  rw [Tables.materializeAlert]
  split
  · exact hfold t
  · exact (alerts_insertIntent _ _).trans (hfold t)

theorem TablesOk.materializeAlert (h : TablesOk t now tokens) {alert : ℕ}
    (halert : alert < t.alerts.length)
    (audience : List (Channel × ℕ)) :
    TablesOk (t.materializeAlert now alert audience) now tokens := by
  have hfold : ∀ t : Tables, TablesOk t now tokens → alert < t.alerts.length →
      TablesOk (audience.foldl (fun t a => t.insertIntent ⟨alert, a.1, some a.2, .pending, none, 0,
        now, none⟩) t)
          now tokens ∧
        alert < (audience.foldl (fun t a =>
          t.insertIntent ⟨alert, a.1, some a.2, .pending, none, 0, now, none⟩)
            t).alerts.length := by
    induction audience with
    | nil => exact fun t h halert => ⟨h, halert⟩
    | cons a audience ih =>
      intro t h halert
      refine ih _ (h.insertIntent halert rfl nofun rfl) ?_
      rwa [alerts_insertIntent]
  obtain ⟨hok, hlt⟩ := hfold t h halert
  rw [Tables.materializeAlert]
  split
  · exact hok
  · exact hok.insertIntent hlt rfl (by simp) rfl

/-- A claim on an intent that is due. -/
theorem TablesOk.claimIntent (h : TablesOk t now tokens) (id : ℕ) :
    TablesOk (t.claimIntent now tokens id) now (tokens + 1) := by
  refine (h.mono le_rfl (Nat.le_succ tokens)).updateIntent fun old hp hold => ?_
  obtain ⟨halert, hunclaimed, hsettled, -, hnext, hsends, hreported⟩ := hold
  refine ⟨halert, fun hstate => ?_, hsettled, fun c hc => ?_, hnext, hsends, hreported⟩
  · simp [selectable, Intent.isOpen, show old.state = .settled from hstate] at hp
  · obtain rfl := Option.some.inj hc
    exact ⟨Nat.lt_succ_self tokens, le_rfl⟩

theorem TablesOk.startAttempt (h : TablesOk t now tokens) (id token : ℕ) :
    TablesOk (t.startAttempt id token) now tokens := by
  refine h.updateIntent fun old _ hold => ?_
  obtain ⟨halert, hunclaimed, hsettled, hclaim, hnext, hsends, hreported⟩ := hold
  exact ⟨halert, hunclaimed, hsettled, hclaim, hnext, hsends.trans (Nat.le_succ _), hreported⟩

theorem TablesOk.retryIntent (h : TablesOk t now tokens) (id token : ℕ) :
    TablesOk (t.retryIntent now id token) now tokens := by
  refine h.updateIntent fun old hp hold => ?_
  have hopen := hold.open_of_claimed hp
  have hnone := hold.unreported hopen
  obtain ⟨halert, hunclaimed, hsettled, hclaim, hnext, hsends, hreported⟩ := hold
  exact ⟨halert, fun _ => rfl, fun hfailed => absurd (hsettled hfailed) hopen, nofun, le_rfl,
    hsends, hreported⟩

/-- A settlement other than a permanent failure. -/
theorem TablesOk.settleIntent (h : TablesOk t now tokens) (id token : ℕ) {outcome : IntentOutcome}
    (houtcome : outcome ≠ .permanentFailure) :
    TablesOk (t.settleIntent id token outcome) now tokens := by
  refine h.updateIntent fun old hp hold => ?_
  have hnone := hold.unreported (hold.open_of_claimed hp)
  obtain ⟨halert, hunclaimed, hsettled, hclaim, hnext, hsends, hreported⟩ := hold
  refine ⟨halert, fun _ => rfl, fun _ => rfl, nofun, hnext, hsends, ?_⟩
  rw [hnone, owedSecondaries, if_neg]
  rintro ⟨hfailed, -⟩
  exact houtcome (Option.some.inj hfailed)

theorem TablesOk.recordAttempt (h : TablesOk t now tokens) (d : DueIntent)
    (status : DeliveryStatus) :
    TablesOk (t.recordAttempt now d status) now tokens :=
  ⟨fun id i hi => (h.rows id i hi).congr rfl rfl, h.sent, h.keys⟩

/-- A call of the sender for an attempt that was counted. -/
theorem TablesOk.send (h : TablesOk t now tokens) (hi : t.intents[id]? = some i)
    (hcount : t.sends.count id < i.attemptCount) :
    TablesOk { t with sends := id :: t.sends } now tokens := by
  refine ⟨fun k j hj => ?_, fun k hk => ?_, h.keys⟩
  · obtain ⟨halert, hunclaimed, hsettled, hclaim, hnext, hsends, hreported⟩ := h.rows k j hj
    refine ⟨halert, hunclaimed, hsettled, hclaim, hnext, ?_, hreported⟩
    rcases eq_or_ne k id with rfl | hne
    · obtain rfl : i = j := Option.some.inj (hi.symm.trans hj)
      rw [List.count_cons_self]
      exact hcount
    · rw [List.count_cons_of_ne hne.symm]
      exact hsends
  · rcases List.mem_cons.mp hk with rfl | hk
    · exact (List.getElem?_eq_some_iff.mp hi).1
    · exact h.sent k hk

/-- An intent that is given up, and its report. -/
theorem TablesOk.settlePermanentFailure (h : TablesOk t now tokens) {d : DueIntent} {token : ℕ}
    (hi : t.intents[d.id]? = some i) (hclaimed : claimedBy token i = true)
    (halert : t.alerts[i.alert]? = some d.alert) :
    TablesOk (t.settlePermanentFailure token d) now tokens := by
  -- a claimed intent is open, so no report of it is there yet
  have hnone := (h.rows _ _ hi).unreported ((h.rows _ _ hi).open_of_claimed hclaimed)
  have hsecondary : t.isSecondary i.alert = decide (d.alert.eventType = permanentlyFailed) := by
    rw [isSecondary, halert]
    rfl
  -- a report that cannot be delivered is not reported again
  set reports : List Alert :=
    if d.alert.eventType = permanentlyFailed then
      [] else [⟨permanentlyFailed, true, secondaryKey d.id⟩] with hreports
  have hshape : t.settlePermanentFailure token d =
      { t.settleIntent d.id token .permanentFailure with alerts := t.alerts ++ reports } := by
    rw [Tables.settlePermanentFailure, hreports]
    split
    · simp [Tables.settleIntent, Tables.updateIntent]
    · rfl
  have hcount : ∀ k, ({ t with alerts := t.alerts ++ reports } : Tables).secondaries k =
      t.secondaries k + if k = d.id ∧ d.alert.eventType ≠ permanentlyFailed then 1 else 0 := by
    intro k
    rw [hreports]
    split
    case isTrue htype => simp [htype]
    case isFalse htype =>
      rw [secondaries_append]
      have hkey : secondaryKey d.id = secondaryKey k ↔ k = d.id :=
        ⟨fun hkey => (secondaryKey_inj hkey).symm, fun hk => by rw [hk]⟩
      simp [hkey, htype]
  rw [hshape]
  refine ⟨fun k j hj => ?_, fun k hk => ?_, fun a ha htype => ?_⟩
  · have hold : t.intents[k]? = some j ∧ k ≠ d.id ∨ k = d.id ∧
        j = { i with state := .settled, outcome := some .permanentFailure, claim := none } := by
      change (t.updateIntent d.id _ _).intents[k]? = some j at hj
      -- the row that is given up is the claimed one; every other row is as it was
      rcases eq_or_ne k d.id with rfl | hne
      · rw [getElem?_updateIntent, if_pos rfl, hi, Option.map_some, if_pos hclaimed] at hj
        exact Or.inr ⟨rfl, (Option.some.inj hj).symm⟩
      · rw [getElem?_updateIntent, if_neg hne] at hj
        exact Or.inl ⟨hj, hne⟩
    have hsecondaries := hcount k
    rcases hold with ⟨hold, hne⟩ | ⟨rfl, rfl⟩
    · obtain ⟨halert', hunclaimed, hsettled, hclaim, hnext, hsends, hreported⟩ := h.rows k j hold
      refine ⟨?_, hunclaimed, hsettled, hclaim, hnext, hsends, ?_⟩
      · exact lt_of_lt_of_le halert' (by simp)
      · change ({ t with alerts := t.alerts ++ reports } : Tables).secondaries k = _
        rw [hsecondaries, if_neg fun hboth => hne hboth.1, hreported, owedSecondaries,
          owedSecondaries]
        rw [isSecondary, isSecondary]
        dsimp only
        rw [List.getElem?_append_left halert']
        rfl
    · obtain ⟨halert', hunclaimed, hsettled, hclaim, hnext, hsends, hreported⟩ := h.rows _ i hi
      refine ⟨?_, fun _ => rfl, fun _ => rfl, nofun, hnext, hsends, ?_⟩
      · exact lt_of_lt_of_le halert' (by simp)
      · change ({ t with alerts := t.alerts ++ reports } : Tables).secondaries d.id = _
        rw [hsecondaries, hnone, owedSecondaries, isSecondary]
        dsimp only
        rw [List.getElem?_append_left halert', halert]
        simp
  · change k < (t.updateIntent d.id _ _).intents.length
    rw [length_updateIntent]
    exact h.sent k hk
  · change ∃ id < (t.updateIntent d.id _ _).intents.length, _
    rw [length_updateIntent]
    rcases List.mem_append.mp ha with ha | ha
    · exact h.keys a ha htype
    -- the report of this intent is the only new alert, and it has the key of the intent
    · rw [hreports] at ha
      split at ha
      · cases ha
      · rw [List.mem_singleton.mp ha]
        exact ⟨d.id, (List.getElem?_eq_some_iff.mp hi).1, rfl⟩

end Kept

/-! ### The process -/

/-- A stage before the attempt is counted. -/
def Stage.early : Stage → Bool
  | .checkSent | .checkRecent | .checkRate | .start => true
  | _ => false

/-- A stage of an attempt that was counted. -/
def Stage.counted : Stage → Bool
  | .send | .record .sent | .record .failed | .giveUp => true
  | _ => false

/-- A stage that an intent with a `sent` attempt on record does not reach. -/
def Stage.unsent : Stage → Bool
  | .checkSent | .settleSent | .release => false
  | _ => true

/-- An intent that is still to be taken up is as it was read. -/
def DueOk (t : Tables) (d : DueIntent) : Prop :=
  ∃ i, t.intents[d.id]? = some i ∧ i.attemptCount = d.intent.attemptCount ∧
      i.alert = d.intent.alert ∧
    t.alerts[i.alert]? = some d.alert

/-- The intent in hand: the claim is held, the attempts are as they were read, or one more. -/
structure InHand (t : Tables) (token : ℕ) (d : DueIntent) (stage : Stage) (i : Intent) : Prop where
  row : t.intents[d.id]? = some i
  claimed : claimedBy token i = true
  isOpen : i.isOpen = true
  alert : t.alerts[i.alert]? = some d.alert
  early : stage.early = true → i.attemptCount = d.intent.attemptCount
  counted : stage.counted = true → i.attemptCount = d.intent.attemptCount + 1
  send : stage = .send → t.sends.count d.id < i.attemptCount

/-- Where the process is within an intent. -/
structure StageOk (t : Tables) (token : ℕ) (d : DueIntent) (stage : Stage) : Prop where
  inHand : stage ≠ .release → ∃ i, InHand t token d stage i
  unsent : stage.unsent = true → t.alreadySent d.id = false

/-- Where the process is. -/
def ProcessOk (t : Tables) : Process → Prop
  | .down | .idle => True
  | .materializing alerts => ∀ a ∈ alerts, a < t.alerts.length
  | .draining due => (∀ d ∈ due, DueOk t d) ∧ (due.map DueIntent.id).Nodup
  | .processing d token stage due =>
    ((∀ d ∈ due, DueOk t d) ∧ (due.map DueIntent.id).Nodup) ∧ d.id ∉ due.map DueIntent.id ∧
      StageOk t token d stage

/-- **The invariant of the dispatcher.** -/
structure Inv (w : Dispatcher) : Prop where
  tables : TablesOk w.tables w.now w.tokens
  process : ProcessOk w.tables w.process

section Due

variable {t : Tables} {now : ℕ} {d : DueIntent}

theorem mem_dueOf {critical : Bool} : d ∈ t.dueOf now critical ↔
    t.intents[d.id]? = some d.intent ∧ selectable now d.intent = true ∧
      t.alerts[d.intent.alert]? = some d.alert ∧ d.alert.critical = critical := by
  rw [dueOf, List.mem_insertionSort, List.mem_filter, List.mem_filterMap]
  simp only [List.mem_range, Option.bind_eq_some_iff, Option.filter_eq_some_iff,
    Option.map_eq_some_iff, beq_iff_eq]
  constructor
  · rintro ⟨⟨id, -, i, ⟨hi, hselectable⟩, a, ha, rfl⟩, hcritical⟩
    exact ⟨hi, hselectable, ha, hcritical⟩
  · rintro ⟨hi, hselectable, ha, hcritical⟩
    exact ⟨⟨d.id, (List.getElem?_eq_some_iff.mp hi).1, d.intent, ⟨hi, hselectable⟩, d.alert, ha,
      rfl⟩, hcritical⟩

theorem nodup_dueOf (t : Tables) (now : ℕ) (critical : Bool) :
    ((t.dueOf now critical).map DueIntent.id).Nodup := by
  rw [dueOf]
  refine ((List.perm_insertionSort _ _).map _).nodup_iff.mpr ?_
  refine List.Nodup.sublist (List.filter_sublist.map _) ?_
  rw [List.map_filterMap]
  refine List.Nodup.filterMap ?_ List.nodup_range
  have hid : ∀ id k, ((t.intents[id]?.filter (selectable now)).bind fun i =>
      t.alerts[i.alert]?.map fun a => (⟨id, i, a⟩ : DueIntent)).map DueIntent.id = some k →
        id = k := by
    intro id k hk
    simp only [Option.map_eq_some_iff, Option.bind_eq_some_iff] at hk
    obtain ⟨d, ⟨i, hi, a, ha, rfl⟩, rfl⟩ := hk
    rfl
  exact fun id id' k hk hk' => (hid id k hk).trans (hid id' k hk').symm

theorem dueOk_due (t : Tables) (now : ℕ) :
    (∀ d ∈ t.due now, DueOk t d) ∧ ((t.due now).map DueIntent.id).Nodup := by
  have hmem : ∀ {critical n d}, d ∈ (t.dueOf now critical).take n → d ∈ t.dueOf now critical :=
    fun hd => List.mem_of_mem_take hd
  constructor
  · intro d hd
    obtain ⟨critical, hd⟩ : ∃ critical, d ∈ t.dueOf now critical := by
      rcases List.mem_append.mp hd with hd | hd
      · exact ⟨_, hmem hd⟩
      · exact ⟨_, hmem hd⟩
    obtain ⟨hi, -, ha, -⟩ := mem_dueOf.mp hd
    exact ⟨d.intent, hi, rfl, rfl, ha⟩
  · have htake : ∀ critical n, (((t.dueOf now critical).take n).map DueIntent.id).Nodup :=
      fun critical n =>
      (nodup_dueOf t now critical).sublist ((List.take_sublist _ _).map _)
    rw [due, List.map_append]
    refine List.nodup_append.mpr ⟨htake _ _, htake _ _, ?_⟩
    -- an intent has one alert, and that is of one class
    rintro id hcritical id' hnormal rfl
    obtain ⟨d, hd, rfl⟩ := List.mem_map.mp hcritical
    obtain ⟨d', hd', hid⟩ := List.mem_map.mp hnormal
    obtain ⟨hi, -, ha, hclass⟩ := mem_dueOf.mp (hmem hd)
    obtain ⟨hi', -, ha', hclass'⟩ := mem_dueOf.mp (hmem hd')
    rw [hid, hi] at hi'
    rw [← Option.some.inj hi', ha] at ha'
    rw [← Option.some.inj ha', hclass] at hclass'
    cases hclass'

end Due

/-! ### Steps of the process -/

section Steps

variable {t : Tables} {now token tokens : ℕ} {d : DueIntent} {stage : Stage} {i : Intent}

/-- A stage is about one intent. -/
theorem effect_of_ne {k : ℕ} (hne : k ≠ d.id) :
    (stage.effect now token d t).intents[k]? = t.intents[k]? := by
  have hupdate : ∀ p f, (t.updateIntent d.id p f).intents[k]? = t.intents[k]? := fun p f => by
    rw [getElem?_updateIntent, if_neg hne]
  cases stage with
  | start => exact hupdate _ _
  | settleSent => exact hupdate _ _
  | settleSuppressed => exact hupdate _ _
  | retry => exact hupdate _ _
  | release => exact hupdate _ _
  | giveUp =>
    change (t.settlePermanentFailure token d).intents[k]? = _
    rw [settlePermanentFailure]
    split
    · exact hupdate _ _
    · exact hupdate _ _
  | _ => rfl

theorem effect_alerts {n : ℕ} {a : Alert} (h : t.alerts[n]? = some a) :
    (stage.effect now token d t).alerts[n]? = some a := by
  cases stage with
  | giveUp =>
    change (t.settlePermanentFailure token d).alerts[n]? = _
    rw [settlePermanentFailure]
    split
    · exact h
    · exact (List.getElem?_append_left (List.getElem?_eq_some_iff.mp h).1).trans h
  | _ => exact h

theorem DueOk.congr {t' : Tables} {d' : DueIntent} (h : DueOk t d')
    (hi : t'.intents[d'.id]? = t.intents[d'.id]?)
    (ha : ∀ (n : ℕ) (a : Alert), t.alerts[n]? = some a → t'.alerts[n]? = some a) : DueOk t' d' := by
  obtain ⟨i, hrow, hcount, halert, ha'⟩ := h
  exact ⟨i, hi.trans hrow, hcount, halert, ha _ _ ha'⟩

theorem InHand.congr {t' : Tables} {stage' : Stage} (h : InHand t token d stage i)
    (hi : t'.intents[d.id]? = t.intents[d.id]?) (ha : t'.alerts[i.alert]? = t.alerts[i.alert]?)
    (hearly : stage'.early = true → stage.early = true)
    (hcounted : stage'.counted = true → stage.counted = true)
    (hsend : stage' = .send → t'.sends.count d.id < i.attemptCount) :
    InHand t' token d stage' i := by
  obtain ⟨hrow, hclaimed, hopen, halert, hearly', hcounted', -⟩ := h
  exact ⟨hi.trans hrow, hclaimed, hopen, ha.trans halert, fun hs => hearly' (hearly hs),
    fun hs => hcounted' (hcounted hs), hsend⟩

/-- What a stage leaves of the tables. -/
theorem TablesOk.effect (h : TablesOk t now tokens) (hstage : StageOk t token d stage) :
    TablesOk (stage.effect now token d t) now tokens := by
  cases stage with
  | checkSent => exact h
  | checkRecent => exact h
  | checkRate => exact h
  | start => exact h.startAttempt _ _
  | send =>
    obtain ⟨i, hi⟩ := hstage.inHand nofun
    exact h.send hi.row (hi.send rfl)
  | record attempt => exact h.recordAttempt _ _
  | settleSent => exact h.settleIntent _ _ nofun
  | settleSuppressed => exact h.settleIntent _ _ nofun
  | retry => exact h.retryIntent _ _
  | giveUp =>
    obtain ⟨i, hi⟩ := hstage.inHand nofun
    exact h.settlePermanentFailure hi.row hi.claimed hi.alert
  | release => exact h.retryIntent _ _

theorem alreadySent_recordAttempt (status : DeliveryStatus) (k : ℕ) :
    (t.recordAttempt now d status).alreadySent k =
      (t.alreadySent k || (decide (d.id = k) && decide (status = .sent))) := by
  rw [alreadySent, recordAttempt, List.any_append]
  simp [alreadySent]

/-- The stages that leave the intent in hand as it is. -/
theorem StageOk.goOn {t' : Tables} {stage' : Stage} (h : StageOk t token d stage)
    (hrelease : stage ≠ .release) (hi : t'.intents = t.intents) (ha : t'.alerts = t.alerts)
    (hearly : stage'.early = true → stage.early = true)
    (hcounted : stage'.counted = true → stage.counted = true)
    (hsend : stage' ≠ .send) (hunsent : stage'.unsent = true → t'.alreadySent d.id = false) :
    StageOk t' token d stage' := by
  refine ⟨fun _ => ?_, hunsent⟩
  obtain ⟨i, hhand⟩ := h.inHand hrelease
  exact ⟨i, hhand.congr (by rw [hi]) (by rw [ha]) hearly hcounted fun hs => absurd hs hsend⟩

theorem gate_cases (answer : Answer) (d : DueIntent) :
    gate answer d = .retry ∨ gate answer d = .start := by
  rw [gate]
  split
  · exact Or.inl rfl
  · exact Or.inr rfl

/-- **The intent stays in hand from one stage to the next.** -/
theorem StageOk.next (h : StageOk t token d stage) (hok : TablesOk t now tokens) {answer : Answer}
    {stage' : Stage} (hnext : stage.next now token answer d t = some stage') :
    StageOk (stage.effect now token d t) token d stage' := by
  cases stage with
  | checkSent =>
    obtain rfl := Option.some.inj hnext
    split
    case isTrue hsent => exact h.goOn nofun rfl rfl nofun nofun nofun nofun
    case isFalse hsent =>
      have hunsent : t.alreadySent d.id = false := by simpa using hsent
      split
      · rcases gate_cases answer d with hgate | hgate <;> rw [hgate]
        · exact h.goOn nofun rfl rfl nofun nofun nofun fun _ => hunsent
        · exact h.goOn nofun rfl rfl (fun _ => rfl) nofun nofun fun _ => hunsent
      · exact h.goOn nofun rfl rfl (fun _ => rfl) nofun nofun fun _ => hunsent
  | checkRecent =>
    obtain rfl := Option.some.inj hnext
    split
    · exact h.goOn nofun rfl rfl nofun nofun nofun fun _ => h.unsent rfl
    · exact h.goOn nofun rfl rfl (fun _ => rfl) nofun nofun fun _ => h.unsent rfl
  | checkRate =>
    obtain rfl := Option.some.inj hnext
    split
    · exact h.goOn nofun rfl rfl nofun nofun nofun fun _ => h.unsent rfl
    · rcases gate_cases answer d with hgate | hgate <;> rw [hgate]
      · exact h.goOn nofun rfl rfl nofun nofun nofun fun _ => h.unsent rfl
      · exact h.goOn nofun rfl rfl (fun _ => rfl) nofun nofun fun _ => h.unsent rfl
  | start =>
    obtain ⟨i, hhand⟩ := h.inHand nofun
    have hclaim : (t.intents[d.id]?.any fun i => claimedBy token i && i.isOpen) = true := by
      rw [hhand.row]
      simp [hhand.claimed, hhand.isOpen]
    simp only [Stage.next, hclaim, if_true] at hnext
    obtain rfl := Option.some.inj hnext
    -- the attempt is counted, and the calls made so far were counted before it
    have hrow : (t.startAttempt d.id token).intents[d.id]? =
      some { i with attemptCount := i.attemptCount + 1 } := by
      rw [startAttempt, getElem?_updateIntent, if_pos rfl, hhand.row, Option.map_some,
        if_pos (by rw [hhand.claimed, hhand.isOpen]; rfl)]
    refine ⟨fun _ => ⟨_, hrow, hhand.claimed, hhand.isOpen, hhand.alert, nofun, fun _ => ?_,
      fun _ => ?_⟩, fun _ => h.unsent rfl⟩
    · exact congrArg (· + 1) (hhand.early rfl)
    · exact Nat.lt_succ_of_le (hok.rows _ _ hhand.row).sends
  | send =>
    obtain rfl := Option.some.inj hnext
    split
    · exact h.goOn nofun rfl rfl nofun (fun _ => rfl) nofun fun _ => h.unsent rfl
    · exact h.goOn nofun rfl rfl nofun (fun _ => rfl) nofun fun _ => h.unsent rfl
  | record attempt =>
    have hunsent := h.unsent rfl
    cases attempt with
    | suppressed =>
      obtain rfl := Option.some.inj hnext
      refine h.goOn nofun rfl rfl nofun nofun nofun fun _ => ?_
      exact (alreadySent_recordAttempt _ _).trans (by simp [hunsent, Attempt.status])
    | limited =>
      obtain rfl := Option.some.inj hnext
      refine h.goOn nofun rfl rfl nofun nofun nofun fun _ => ?_
      exact (alreadySent_recordAttempt _ _).trans (by simp [hunsent, Attempt.status])
    | sent =>
      obtain rfl := Option.some.inj hnext
      exact h.goOn nofun rfl rfl nofun nofun nofun nofun
    | failed =>
      obtain rfl := Option.some.inj hnext
      have hkept : (t.recordAttempt now d .failed).alreadySent d.id = false :=
        (alreadySent_recordAttempt _ _).trans (by simp [hunsent])
      split
      · exact h.goOn nofun rfl rfl nofun (fun _ => rfl) nofun fun _ => hkept
      · exact h.goOn nofun rfl rfl nofun nofun nofun fun _ => hkept
  | settleSent => cases hnext
  | settleSuppressed => cases hnext
  | retry => cases hnext
  | giveUp => cases hnext
  | release => cases hnext

theorem stageOk_release (t : Tables) (token : ℕ) (d : DueIntent) : StageOk t token d .release :=
  ⟨fun h => absurd rfl h, nofun⟩

/-- The intents that are still to be taken up. -/
theorem dueOk_effect {due : List DueIntent} (h : ∀ d' ∈ due, DueOk t d')
    (hd : d.id ∉ due.map DueIntent.id) :
    ∀ d' ∈ due, DueOk (stage.effect now token d t) d' := by
  intro d' hd'
  have hne : d'.id ≠ d.id := fun hid => hd (List.mem_map.mpr ⟨d', hd', hid⟩)
  exact (h d' hd').congr (effect_of_ne hne) fun n a ha => effect_alerts ha

/-- Another part of the controller does not touch what the process is at. -/
theorem ProcessOk.raise {process : Process} (h : ProcessOk t process) (a : Alert) :
    ProcessOk { t with alerts := t.alerts ++ [a] } process := by
  have hkept : ∀ (n : ℕ) (b : Alert), t.alerts[n]? = some b →
    (t.alerts ++ [a])[n]? = some b := fun n b hb =>
    (List.getElem?_append_left (List.getElem?_eq_some_iff.mp hb).1).trans hb
  have hdue : ∀ {due : List DueIntent}, (∀ d ∈ due, DueOk t d) →
      ∀ d ∈ due, DueOk { t with alerts := t.alerts ++ [a] } d :=
      fun h d hd => (h d hd).congr rfl hkept
  cases process with
  | down => trivial
  | idle => trivial
  | materializing alerts =>
    intro n hn
    have hlt := h n hn
    simp only [List.length_append]
    omega
  | draining due => exact ⟨hdue h.1, h.2⟩
  | processing d token stage due =>
    obtain ⟨⟨hdues, hnodup⟩, hnot, hstage⟩ := h
    refine ⟨⟨hdue hdues, hnodup⟩, hnot, fun hne => ?_, hstage.unsent⟩
    obtain ⟨i, hhand⟩ := hstage.inHand hne
    exact ⟨i, hhand.congr rfl ((hkept _ _ hhand.alert).trans hhand.alert.symm) id id hhand.send⟩

/-- A claim that is granted takes the intent in hand. -/
theorem stageOk_claimIntent (hdue : DueOk t d)
    (hselectable : (t.intents[d.id]?.any (selectable now)) = true) :
    StageOk (t.claimIntent now token d.id) token d .checkSent := by
  obtain ⟨i, hrow, hcount, -, ha⟩ := hdue
  rw [hrow, Option.any_some] at hselectable
  have hopen : i.isOpen = true := by
    simp only [selectable, Bool.and_eq_true] at hselectable
    exact hselectable.1.1
  have hrow' : (t.claimIntent now token d.id).intents[d.id]? =
    some { i with claim := some ⟨token, now⟩ } := by
    rw [claimIntent, getElem?_updateIntent, if_pos rfl, hrow, Option.map_some, if_pos hselectable]
  exact ⟨fun _ => ⟨_, hrow', by simp [claimedBy], hopen, ha, fun _ => hcount, nofun, nofun⟩, nofun⟩

theorem dueOk_claimIntent {due : List DueIntent} (h : ∀ d' ∈ due, DueOk t d')
    (hd : d.id ∉ due.map DueIntent.id) :
    ∀ d' ∈ due, DueOk (t.claimIntent now token d.id) d' := by
  intro d' hd'
  have hne : d'.id ≠ d.id := fun hid => hd (List.mem_map.mpr ⟨d', hd', hid⟩)
  refine (h d' hd').congr ?_ fun n a ha => ha
  rw [claimIntent, getElem?_updateIntent, if_neg hne]

/-- Where the process is after a stage. -/
theorem processOk_afterStage {w : Dispatcher} (hok : TablesOk w.tables w.now w.tokens)
    {due : List DueIntent}
    (hprocess : ProcessOk w.tables (.processing d token stage due)) (answer : Answer)
    (fate : Fate) :
    ProcessOk (if fate.applied then stage.effect w.now token d w.tables else w.tables)
      (afterStage w answer d token stage due fate) := by
  obtain ⟨⟨hdue, hnodup⟩, hnot, hstage⟩ := hprocess
  -- the write of the stage is about the intent in hand, which is no longer among those due
  have hdues : ∀ applied : Bool, ∀ d' ∈ due,
      DueOk (if applied then stage.effect w.now token d w.tables else w.tables) d' := by
    intro applied
    cases applied with
    | true => exact dueOk_effect hdue hnot
    | false => exact hdue
  cases fate with
  | done =>
    rw [afterStage]
    rcases hnext : stage.next w.now token answer d w.tables with _ | stage'
    · exact ⟨hdues true, hnodup⟩
    · exact ⟨⟨hdues true, hnodup⟩, hnot, hstage.next hok hnext⟩
  | failed applied =>
    -- a send that fails goes on to the retry; a statement that fails gives the claim back
    by_cases hsend : stage = .send
    · subst hsend
      refine ⟨⟨hdues applied, hnodup⟩, hnot, ?_⟩
      have hunsent := hstage.unsent rfl
      cases applied with
      | true => exact hstage.goOn nofun rfl rfl nofun (fun _ => rfl) nofun fun _ => hunsent
      | false => exact hstage.goOn nofun rfl rfl nofun (fun _ => rfl) nofun fun _ => hunsent
    · by_cases hrelease : stage = .release
      · subst hrelease
        trivial
      · have hafter : afterStage w answer d token stage due (.failed applied) =
          .processing d token .release due := by
          cases stage <;> first | rfl | exact absurd rfl hsend | exact absurd rfl hrelease
        rw [hafter]
        exact ⟨⟨hdues applied, hnodup⟩, hnot, stageOk_release _ _ _⟩
  | stopped applied => trivial

/-- **Every event keeps the invariant.** -/
theorem Inv.step {w : Dispatcher} (h : Inv w) (e : Event) : Inv (step w e) := by
  obtain ⟨htables, hprocess⟩ := h
  cases e with
  | raise eventType critical dedupKey => exact ⟨htables.raise eventType.2, hprocess.raise _⟩
  | wait seconds => exact ⟨htables.mono (Nat.le_add_right _ _) le_rfl, hprocess⟩
  | start =>
    rw [Alerts.step]
    split
    · exact ⟨htables, trivial⟩
    · exact ⟨htables, hprocess⟩
  | run answer fate =>
    rw [Alerts.step, Dispatcher.go]
    -- by where the process is: starting, picking alerts, picking intents, claiming, or at a stage
    rcases hp : w.process with _ | _ | (_ | ⟨alert, alerts⟩) | (_ | ⟨d, due⟩) | ⟨d, token,
      stage, due⟩ <;>
      simp only [hp] at hprocess ⊢
    · exact ⟨htables, hp ▸ trivial⟩
    · refine ⟨htables, ?_⟩
      cases fate with
      | done =>
        intro a ha
        rcases List.mem_append.mp ha with ha | ha <;>
          exact List.mem_range.mp (List.mem_filter.mp (List.mem_of_mem_take ha)).1
      | _ => trivial
    · refine ⟨htables, ?_⟩
      cases fate with
      | done => exact dueOk_due _ _
      | _ => trivial
    · have halert : alert < w.tables.alerts.length := hprocess alert List.mem_cons_self
      refine ⟨?_, ?_⟩
      · split
        · exact htables.materializeAlert halert _
        · exact htables
      · cases fate with
        | done =>
          intro a ha
          have hlt := hprocess a (List.mem_cons_of_mem _ ha)
          rw [Fate.applied, if_pos rfl, alerts_materializeAlert]
          exact hlt
        | _ => trivial
    · refine ⟨htables, ?_⟩
      cases fate <;> trivial
    · obtain ⟨hdue, hnodup⟩ := hprocess
      -- the intent in hand leaves the list, and occurs in it no second time
      obtain ⟨hnot, hnodup⟩ := List.nodup_cons.mp hnodup
      have hdues := fun d' hd' => hdue d' (List.mem_cons_of_mem d hd')
      refine ⟨?_, ?_⟩
      · split
        · exact htables.claimIntent _
        · exact htables.mono le_rfl (Nat.le_succ _)
      · cases fate with
        | done =>
          simp only [Fate.applied, if_true]
          split
          -- only an intent that was selected by the claim is gone on with
          case isTrue hselectable =>
            exact ⟨⟨dueOk_claimIntent hdues hnot, hnodup⟩, hnot,
              stageOk_claimIntent (hdue d List.mem_cons_self) hselectable⟩
          case isFalse => exact ⟨dueOk_claimIntent hdues hnot, hnodup⟩
        | _ => trivial
    · refine ⟨?_, processOk_afterStage htables hprocess answer fate⟩
      split
      · exact htables.effect hprocess.2.2
      · exact htables

end Steps

/-! ### What one event may do -/

section Events

variable {w : Dispatcher} {t : Tables} {id : ℕ} {i : Intent}

/-- What a step does to the tables: a statement of the stage it is at, or one of the pass. -/
inductive Did (w : Dispatcher) (t : Tables) : Prop
  | nothing (h : t = w.tables)
  | raised (a : Alert) (h : t = { w.tables with alerts := w.tables.alerts ++ [a] })
  | materialized (alert : ℕ) (audience : List (Channel × ℕ))
      (h : t = w.tables.materializeAlert w.now alert audience)
  | claimed (id : ℕ) (h : t = w.tables.claimIntent w.now w.tokens id)
  | stage (d : DueIntent) (token : ℕ) (stage : Stage) (due : List DueIntent)
    (hprocess : w.process = .processing d token stage due)
    (h : t = stage.effect w.now token d w.tables)

theorem did_step (w : Dispatcher) (e : Event) : Did w (step w e).tables := by
  cases e with
  | raise eventType critical dedupKey => exact .raised _ rfl
  | wait seconds => exact .nothing rfl
  | start =>
    rw [step]
    split <;> exact .nothing rfl
  | run answer fate =>
    rw [step, Dispatcher.go]
    rcases hp : w.process with _ | _ | (_ | ⟨alert, alerts⟩) | (_ | ⟨d, due⟩) | ⟨d, token,
      stage, due⟩ <;>
      dsimp only
    · exact .nothing rfl
    · exact .nothing rfl
    · exact .nothing rfl
    · split
      · exact .materialized _ _ rfl
      · exact .nothing rfl
    · exact .nothing rfl
    · split
      · exact .claimed _ rfl
      · exact .nothing rfl
    · split
      · exact .stage d token stage due hp rfl
      · exact .nothing rfl

theorem getElem?_materializeAlert {now alert : ℕ} (audience : List (Channel × ℕ))
    (h : t.intents[id]? = some i) :
    (t.materializeAlert now alert audience).intents[id]? = some i := by
  have hfold : ∀ t : Tables, t.intents[id]? = some i → (audience.foldl (fun t a =>
      t.insertIntent ⟨alert, a.1, some a.2, .pending, none, 0, now, none⟩) t).intents[id]? =
        some i := by
    induction audience with
    | nil => exact fun t h => h
    | cons a audience ih => exact fun t h => ih _ (getElem?_insertIntent h)
  rw [materializeAlert]
  split
  · exact hfold t h
  · exact getElem?_insertIntent (hfold t h)

/-- An update leaves a row that it is not about. -/
theorem getElem?_updateIntent_of_not {k : ℕ} {p : Intent → Bool} {f : Intent → Intent}
    (h : t.intents[id]? = some i)
    (hp : p i = false) : (t.updateIntent k p f).intents[id]? = some i := by
  rw [getElem?_updateIntent]
  split
  · rw [h, Option.map_some, if_neg (by simp [hp])]
  · exact h

theorem settledKept (h : Inv w) (e : Event) : SettledKept w e := by
  intro id i hi hsettled
  have hclaim : ∀ token, claimedBy token i = false := fun token => by
    rw [claimedBy, (h.tables.rows id i hi).unclaimed hsettled]
    rfl
  have hclosed : i.isOpen = false := by simp [Intent.isOpen, hsettled]
  rcases did_step w e with hdid | ⟨a, hdid⟩ | ⟨alert, audience, hdid⟩ | ⟨k, hdid⟩ | ⟨d, token,
    stage, due, -, hdid⟩ <;>
    rw [hdid]
  · exact hi
  · exact hi
  · exact getElem?_materializeAlert audience hi
  · exact getElem?_updateIntent_of_not hi (by simp [selectable, hclosed])
  · cases stage with
    | start => exact getElem?_updateIntent_of_not hi (by simp [hclosed])
    | settleSent => exact getElem?_updateIntent_of_not hi (hclaim token)
    | settleSuppressed => exact getElem?_updateIntent_of_not hi (hclaim token)
    | retry => exact getElem?_updateIntent_of_not hi (hclaim token)
    | release => exact getElem?_updateIntent_of_not hi (hclaim token)
    | giveUp =>
      change (w.tables.settlePermanentFailure token d).intents[id]? = _
      rw [settlePermanentFailure]
      split <;> exact getElem?_updateIntent_of_not hi (hclaim token)
    | _ => exact hi

theorem sends_insertIntent (t : Tables) (row : Intent) :
    (t.insertIntent row).sends = t.sends ∧ (t.insertIntent row).deliveries = t.deliveries := by
  rw [insertIntent]
  split <;> exact ⟨rfl, rfl⟩

theorem sends_materializeAlert (t : Tables) (now alert : ℕ) (audience : List (Channel × ℕ)) :
    (t.materializeAlert now alert audience).sends = t.sends ∧
      (t.materializeAlert now alert audience).deliveries = t.deliveries := by
  have hfold : ∀ t : Tables, (audience.foldl (fun t a =>
      t.insertIntent ⟨alert, a.1, some a.2, .pending, none, 0, now, none⟩) t).sends = t.sends ∧
      (audience.foldl (fun t a =>
      t.insertIntent ⟨alert, a.1, some a.2, .pending, none, 0, now, none⟩) t).deliveries =
        t.deliveries := by
    induction audience with
    | nil => exact fun t => ⟨rfl, rfl⟩
    | cons a audience ih =>
      intro t
      obtain ⟨hsends, hdeliveries⟩ :=
        ih (t.insertIntent ⟨alert, a.1, some a.2, .pending, none, 0, now, none⟩)
      obtain ⟨hs, hd⟩ := sends_insertIntent t ⟨alert, a.1, some a.2, .pending, none, 0, now, none⟩
      exact ⟨hsends.trans hs, hdeliveries.trans hd⟩
  obtain ⟨hsends, hdeliveries⟩ := hfold t
  rw [materializeAlert]
  split
  · exact ⟨hsends, hdeliveries⟩
  · obtain ⟨hs, hd⟩ := sends_insertIntent
      (audience.foldl (fun t a => t.insertIntent ⟨alert, a.1, some a.2, .pending, none, 0,
        now, none⟩) t)
      ⟨alert, .email, none, .settled, some .noAudience, 0, now, none⟩
    exact ⟨hs.trans hsends, hd.trans hdeliveries⟩

theorem sends_settlePermanentFailure (t : Tables) (token : ℕ) (d : DueIntent) :
    (t.settlePermanentFailure token d).sends = t.sends ∧
      (t.settlePermanentFailure token d).deliveries = t.deliveries := by
  rw [settlePermanentFailure]
  split <;> exact ⟨rfl, rfl⟩

/-- The sender is called at one stage only. -/
theorem sends_effect {now token : ℕ} {d : DueIntent} {stage : Stage} (h : stage ≠ .send) :
    (stage.effect now token d t).sends = t.sends := by
  cases stage with
  | send => exact absurd rfl h
  | giveUp => exact (sends_settlePermanentFailure t token d).1
  | _ => rfl

theorem sentOnce (h : Inv w) (e : Event) : SentOnce w e := by
  intro id hsent
  rcases did_step w e with hdid | ⟨a, hdid⟩ | ⟨alert, audience, hdid⟩ | ⟨k, hdid⟩ |
    ⟨d, token, stage, due, hprocess, hdid⟩ <;> rw [hdid]
  · rw [(sends_materializeAlert _ _ _ _).1]
  · rfl
  · by_cases hstage : stage = .send
    · -- the intent in hand is not on record as sent, so that it is another one
      subst hstage
      have hstage := h.process
      rw [hprocess] at hstage
      have hunsent := hstage.2.2.unsent rfl
      have hne : d.id ≠ id := fun hid => by rw [← hid, hunsent] at hsent; cases hsent
      exact List.count_cons_of_ne hne
    · rw [sends_effect hstage]

theorem reported (h : Inv w) : Reported w := fun id i hi =>
  ⟨(h.tables.rows id i hi).settled, (h.tables.rows id i hi).reported⟩

theorem released (h : Inv w) : Released w := by
  intro id i hi hopen later hlater
  have hrow := h.tables.rows id i hi
  have hnext := hrow.next
  simp only [selectable, hopen, Bool.true_and, Bool.and_eq_true, decide_eq_true_eq]
  refine ⟨by omega, ?_⟩
  rcases hclaim : i.claim with _ | c
  · rfl
  · obtain ⟨-, htime⟩ := hrow.claim c hclaim
    have hlease : claimLeaseSecs ≤ retryBackoffSecs := by decide
    simp only [Option.all_some, decide_eq_true_eq]
    omega

end Events

/-! ### Attempts -/

/-- **Attempts are left to an intent that is open**, unless it is on record as sent, or in hand
with its last attempt. -/
def Spent (w : Dispatcher) : Prop :=
  ∀ (id : ℕ) (i : Intent), w.tables.intents[id]? = some i → i.attemptCount ≤ maxDeliveryAttempts ∧
    (i.isOpen = true → i.attemptCount = maxDeliveryAttempts → w.tables.alreadySent id = true ∨
      ∃ d token stage due, w.process = .processing d token stage due ∧ d.id = id ∧
        stage.counted = true)

section Attempts

variable {w : Dispatcher} {t : Tables} {now token id : ℕ} {d : DueIntent}
  {stage : Stage} {i : Intent}

theorem alreadySent_effect (h : t.alreadySent id = true) :
    (stage.effect now token d t).alreadySent id = true := by
  cases stage with
  | record attempt =>
    change (t.recordAttempt now d attempt.status).alreadySent id = true
    rw [alreadySent_recordAttempt, h, Bool.true_or]
  | giveUp =>
    change (t.settlePermanentFailure token d).alreadySent id = true
    rw [alreadySent, (sends_settlePermanentFailure t token d).2]
    exact h
  | _ => exact h

/-- The attempts of the intent in hand are counted at one stage only. -/
theorem attemptCount_effect (hstage : stage ≠ .start)
    (hclaimed : ∀ old, t.intents[d.id]? = some old → claimedBy token old = true → old.isOpen = true)
    (h : (stage.effect now token d t).intents[d.id]? = some i) :
    ∃ old, t.intents[d.id]? = some old ∧ i.attemptCount = old.attemptCount ∧
      (i.isOpen = true → old.isOpen = true) ∧
      (stage = .giveUp → claimedBy token old = true → i.isOpen = false) := by
  -- an update of the intent in hand keeps the count, and closes the intent if it gives up
  have hupdate : ∀ f, (t.updateIntent d.id (claimedBy token) f).intents[d.id]? = some i →
      (∀ old, (f old).attemptCount = old.attemptCount) →
      (stage = .giveUp → ∀ old, (f old).isOpen = false) →
      ∃ old, t.intents[d.id]? = some old ∧ i.attemptCount = old.attemptCount ∧
        (i.isOpen = true → old.isOpen = true) ∧
        (stage = .giveUp → claimedBy token old = true → i.isOpen = false) := by
    intro f hi hcount hclosed
    rw [getElem?_updateIntent, if_pos rfl] at hi
    obtain ⟨old, hold, rfl⟩ := Option.map_eq_some_iff.mp hi
    refine ⟨old, hold, ?_⟩
    split
    case isTrue hp => exact ⟨hcount old, fun _ => hclaimed old hold hp, fun hs _ => hclosed hs old⟩
    case isFalse hp => exact ⟨rfl, id, fun _ hclaim => absurd hclaim hp⟩
  cases stage with
  | start => exact absurd rfl hstage
  | settleSent => exact hupdate _ h (fun _ => rfl) nofun
  | settleSuppressed => exact hupdate _ h (fun _ => rfl) nofun
  | retry => exact hupdate _ h (fun _ => rfl) nofun
  | release => exact hupdate _ h (fun _ => rfl) nofun
  | giveUp =>
    change (t.settlePermanentFailure token d).intents[d.id]? = _ at h
    -- giving up writes the report next to the intent, which is as after the update
    rw [settlePermanentFailure] at h
    split at h <;> exact hupdate _ h (fun _ => rfl) fun _ _ => rfl
  | _ => exact ⟨i, h, rfl, id, nofun⟩

/-- The attempt that a pass starts. -/
theorem attemptCount_startAttempt (h : (t.startAttempt d.id token).intents[d.id]? = some i) :
    ∃ old, t.intents[d.id]? = some old ∧ i.attemptCount ≤ old.attemptCount + 1 ∧
      (i.isOpen = true → old.isOpen = true) := by
  rw [startAttempt, getElem?_updateIntent, if_pos rfl] at h
  obtain ⟨old, hold, rfl⟩ := Option.map_eq_some_iff.mp h
  refine ⟨old, hold, ?_⟩
  split
  · exact ⟨le_rfl, id⟩
  · exact ⟨Nat.le_succ _, id⟩

theorem attempts_eq (h : t.intents[id]? = some i) : t.attempts id = i.attemptCount := by
  rw [attempts, h]
  rfl

/-- The row of the intent in hand, after a stage that the condition lets end as it did. -/
theorem spent_inHand (hinv : Inv w) (hspent : Spent w) {answer : Answer} {fate : Fate}
    {due : List DueIntent}
    (hprocess : w.process = .processing d token stage due)
    (hcalm : undisturbed w (.run answer fate) = true)
    (hi : (if fate.applied then stage.effect w.now token d w.tables else w.tables).intents[d.id]? =
      some i) :
    i.attemptCount ≤ maxDeliveryAttempts ∧ (i.isOpen = true → i.attemptCount = maxDeliveryAttempts →
      (if fate.applied then stage.effect w.now token d w.tables else w.tables).alreadySent d.id =
      true ∨
        ∃ stage', afterStage w answer d token stage due fate = .processing d token stage' due ∧
          stage'.counted = true) := by
  have hstage : StageOk w.tables token d stage := by
    have hp := hinv.process
    rw [hprocess] at hp
    exact hp.2.2
  have hclaimed : ∀ old, w.tables.intents[d.id]? = some old → claimedBy token old = true →
    old.isOpen = true :=
    fun old hold hclaim => by
      simpa [Intent.isOpen] using (hinv.tables.rows _ _ hold).open_of_claimed hclaim
  -- an interruption is one that the condition allows
  have hinterruptible : fate ≠ .done → stage = .send ∧ (∃ applied, fate = .failed applied) ∨
      stage.interruptible fate.applied (w.tables.attempts d.id) = true := by
    intro hne
    simp only [undisturbed, hprocess] at hcalm
    cases fate with
    | done => exact absurd rfl hne
    | failed applied =>
      rcases Bool.or_eq_true_iff.mp hcalm with hsend | hcalm
      · exact Or.inl ⟨of_decide_eq_true hsend, applied, rfl⟩
      · exact Or.inr hcalm
    | stopped applied => exact Or.inr hcalm
  by_cases hstart : stage = .start
  · subst hstart
    obtain ⟨i₀, hhand⟩ := hstage.inHand nofun
    have hleft : i₀.attemptCount < maxDeliveryAttempts := by
      obtain ⟨hle, hfull⟩ := hspent _ _ hhand.row
      refine lt_of_le_of_ne hle fun heq => ?_
      rcases hfull hhand.isOpen heq with hsent | ⟨d', token', stage', due', hprocess', -, hcounted⟩
      · rw [hstage.unsent rfl] at hsent
        cases hsent
      · rw [hprocess] at hprocess'
        cases hprocess'
        cases hcounted
    rcases happlied : fate.applied with _ | _
    · rw [happlied] at hi
      obtain rfl : i₀ = i := Option.some.inj (hhand.row.symm.trans hi)
      exact ⟨hleft.le, fun _ heq => absurd heq hleft.ne⟩
    · rw [happlied] at hi
      obtain ⟨old, hold, hcount, -⟩ := attemptCount_startAttempt hi
      obtain rfl : i₀ = old := Option.some.inj (hhand.row.symm.trans hold)
      refine ⟨by omega, fun _ heq => ?_⟩
      by_cases hdone : fate = .done
      · subst hdone
        have hnext : Stage.next w.now token answer d w.tables .start = some .send := by
          rw [Stage.next, hhand.row]
          simp [hhand.claimed, hhand.isOpen]
        exact Or.inr ⟨.send, by rw [afterStage, hnext], rfl⟩
      · rcases hinterruptible hdone with ⟨hsend, -⟩ | hleft'
        · cases hsend
        · rw [Stage.interruptible, happlied, attempts_eq hhand.row] at hleft'
          simp only [Bool.not_true, Bool.false_or, decide_eq_true_eq] at hleft'
          omega
  · have hold : ∃ old, w.tables.intents[d.id]? = some old ∧ i.attemptCount = old.attemptCount ∧
        (i.isOpen = true → old.isOpen = true) ∧
          (fate.applied = true → stage = .giveUp → claimedBy token old = true →
            i.isOpen = false) := by
      rcases happlied : fate.applied with _ | _
      · rw [happlied] at hi
        exact ⟨i, hi, rfl, id, nofun⟩
      · rw [happlied] at hi
        obtain ⟨old, hrow, hcount, hopen, hclosed⟩ := attemptCount_effect hstart hclaimed hi
        exact ⟨old, hrow, hcount, hopen, fun _ => hclosed⟩
    obtain ⟨old, hrow, hcount, hopen, hclosed⟩ := hold
    obtain ⟨hle, hfull⟩ := hspent _ _ hrow
    refine ⟨hcount.trans_le hle, fun hopen' heq => ?_⟩
    have hnone : ∀ {p : Prop}, old.attemptCount < maxDeliveryAttempts → p := fun hlt => by omega
    have hleft : fate ≠ .done → stage ≠ .send →
      stage.interruptible fate.applied old.attemptCount = true := by
      intro hne hsend
      rcases hinterruptible hne with ⟨hs, -⟩ | hcalm'
      · exact absurd hs hsend
      · rwa [attempts_eq hrow] at hcalm'
    by_cases hcounted : stage.counted = true
    · obtain ⟨i₀, hhand⟩ := hstage.inHand (by rintro rfl; cases hcounted)
      obtain rfl : i₀ = old := Option.some.inj (hhand.row.symm.trans hrow)
      have hread := hhand.counted hcounted
      cases stage with
      | send =>
        right
        cases fate with
        | done => exact ⟨_, rfl, by cases answer.delivered <;> rfl⟩
        | failed applied => exact ⟨.record .failed, rfl, rfl⟩
        | stopped applied =>
          rcases hinterruptible nofun with ⟨-, applied', hfailed⟩ | hcalm'
          · cases hfailed
          · rw [attempts_eq hrow] at hcalm'
            exact hnone (of_decide_eq_true hcalm')
      | record attempt =>
        cases attempt with
        | suppressed => cases hcounted
        | limited => cases hcounted
        | sent =>
          left
          rcases happlied : fate.applied with _ | _
          · have hcalm' := hleft (by rintro rfl; cases happlied) nofun
            rw [happlied] at hcalm'
            exact hnone (of_decide_eq_true hcalm')
          · exact (alreadySent_recordAttempt _ _).trans (by simp [Attempt.status])
        | failed =>
          by_cases hdone : fate = .done
          · subst hdone
            right
            refine ⟨.giveUp, ?_, rfl⟩
            have hlast : maxDeliveryAttempts ≤ d.intent.attemptCount + 1 := by omega
            simp only [afterStage, Stage.next, if_pos hlast]
          · exact hnone (of_decide_eq_true (hleft hdone nofun))
      | giveUp =>
        rcases happlied : fate.applied with _ | _
        · have hcalm' := hleft (by rintro rfl; cases happlied) nofun
          rw [happlied] at hcalm'
          exact hnone (of_decide_eq_true hcalm')
        · rw [hclosed happlied rfl hhand.claimed] at hopen'
          cases hopen'
      | _ => cases hcounted
    · -- nothing was counted, so that the attempts were used up before, and one of them is on record
      left
      have hsent : w.tables.alreadySent d.id = true := by
        rcases hfull (hopen hopen') (by omega) with hsent | ⟨d', token', stage', due', hprocess',
          -, hcounted'⟩
        · exact hsent
        · rw [hprocess] at hprocess'
          cases hprocess'
          exact absurd hcounted' hcounted
      split
      · exact alreadySent_effect hsent
      · exact hsent

/-- A row after an alert is materialized: one that was there, or one nothing has happened to. -/
theorem of_getElem?_materializeAlert {alert : ℕ} (audience : List (Channel × ℕ))
    (h : (t.materializeAlert now alert audience).intents[id]? = some i) :
    t.intents[id]? = some i ∨ i.attemptCount = 0 := by
  have hfold : ∀ (as : List (Channel × ℕ)) (t : Tables), (as.foldl (fun t a =>
      t.insertIntent ⟨alert, a.1, some a.2, .pending, none, 0, now, none⟩) t).intents[id]? =
        some i →
      t.intents[id]? = some i ∨ i.attemptCount = 0 := by
    intro as
    induction as with
    | nil => exact fun t h => Or.inl h
    | cons a as ih =>
      intro t h
      rcases ih _ h with hold | hzero
      · rcases of_getElem?_insertIntent hold with hold | ⟨-, rfl⟩
        · exact Or.inl hold
        · exact Or.inr rfl
      · exact Or.inr hzero
  rw [materializeAlert] at h
  split at h
  · exact hfold audience t h
  · rcases of_getElem?_insertIntent h with hold | ⟨-, rfl⟩
    · exact hfold audience t hold
    · exact Or.inr rfl

/-- **Every event that the condition allows leaves attempts to an open intent.** -/
theorem Spent.step (hspent : Spent w) (hinv : Inv w) {e : Event} (hcalm : undisturbed w e = true) :
    Spent (step w e) := by
  -- outside of an intent, a full row is on record as sent
  have hidle : (∀ d token stage due, w.process ≠ .processing d token stage due) →
      ∀ (id : ℕ) (i : Intent), w.tables.intents[id]? = some i →
        i.attemptCount ≤ maxDeliveryAttempts ∧
        (i.isOpen = true → i.attemptCount = maxDeliveryAttempts →
          w.tables.alreadySent id = true) := by
    intro hnot id i hi
    obtain ⟨hle, hfull⟩ := hspent id i hi
    refine ⟨hle, fun hopen heq => ?_⟩
    rcases hfull hopen heq with hsent | ⟨d, token, stage, due, hprocess, -⟩
    · exact hsent
    · exact absurd hprocess (hnot d token stage due)
  cases e with
  | raise eventType critical dedupKey => exact hspent
  | wait seconds => exact hspent
  | start =>
    rw [Alerts.step]
    split
    case h_1 hdown =>
      intro id i hi
      obtain ⟨hle, hsent⟩ := hidle (by simp [hdown]) id i hi
      exact ⟨hle, fun hopen heq => Or.inl (hsent hopen heq)⟩
    case h_2 => exact hspent
  | run answer fate =>
    rw [Alerts.step, Dispatcher.go]
    rcases hp : w.process with _ | _ | (_ | ⟨alert, alerts⟩) | (_ | ⟨d, due⟩) | ⟨d, token, stage,
      due⟩ <;> dsimp only
    · exact hspent
    · intro id i hi
      obtain ⟨hle, hsent⟩ := hidle (by simp [hp]) id i hi
      exact ⟨hle, fun hopen heq => Or.inl (hsent hopen heq)⟩
    · intro id i hi
      obtain ⟨hle, hsent⟩ := hidle (by simp [hp]) id i hi
      exact ⟨hle, fun hopen heq => Or.inl (hsent hopen heq)⟩
    · intro id i hi
      rcases happlied : fate.applied with _ | _
        <;> simp only [happlied, Bool.false_eq_true, if_false, if_true] at hi ⊢
      · obtain ⟨hle, hsent⟩ := hidle (by simp [hp]) id i hi
        exact ⟨hle, fun hopen heq => Or.inl (hsent hopen heq)⟩
      · rcases of_getElem?_materializeAlert _ hi with hold | hzero
        · obtain ⟨hle, hsent⟩ := hidle (by simp [hp]) id i hold
          refine ⟨hle, fun hopen heq => Or.inl ?_⟩
          rw [alreadySent, (sends_materializeAlert _ _ _ _).2]
          exact hsent hopen heq
        · rw [hzero]
          exact ⟨Nat.zero_le _, fun _ h => absurd h (by decide)⟩
    · intro id i hi
      obtain ⟨hle, hsent⟩ := hidle (by simp [hp]) id i hi
      exact ⟨hle, fun hopen heq => Or.inl (hsent hopen heq)⟩
    · intro id i hi
      rcases happlied : fate.applied with _ | _
        <;> simp only [happlied, Bool.false_eq_true, if_false, if_true] at hi ⊢
      · obtain ⟨hle, hsent⟩ := hidle (by simp [hp]) id i hi
        exact ⟨hle, fun hopen heq => Or.inl (hsent hopen heq)⟩
      · rcases of_getElem?_updateIntent hi with hold | ⟨rfl, old, hold, -, rfl⟩
        · obtain ⟨hle, hsent⟩ := hidle (by simp [hp]) id i hold
          exact ⟨hle, fun hopen heq => Or.inl (hsent hopen heq)⟩
        · obtain ⟨hle, hsent⟩ := hidle (by simp [hp]) _ old hold
          exact ⟨hle, fun hopen heq => Or.inl (hsent hopen heq)⟩
    · intro id i hi
      dsimp only at hi ⊢
      rcases eq_or_ne id d.id with rfl | hne
      · obtain ⟨hle, hfull⟩ := spent_inHand hinv hspent hp hcalm hi
        refine ⟨hle, fun hopen heq => ?_⟩
        rcases hfull hopen heq with hsent | ⟨stage', hafter, hcounted⟩
        · exact Or.inl hsent
        · exact Or.inr ⟨d, token, stage', due, hafter, rfl, hcounted⟩
      · have hold : w.tables.intents[id]? = some i := by
          split at hi
          · rwa [effect_of_ne hne] at hi
          · exact hi
        obtain ⟨hle, hfull⟩ := hspent id i hold
        refine ⟨hle, fun hopen heq => Or.inl ?_⟩
        rcases hfull hopen heq with hsent | ⟨d', token', stage', due', hprocess, hid, -⟩
        · split
          · exact alreadySent_effect hsent
          · exact hsent
        · rw [hp] at hprocess
          cases hprocess
          exact absurd hid.symm hne

theorem bounded (hinv : Inv w) (hspent : Spent w) : Bounded w := by
  intro id
  rcases hi : w.tables.intents[id]? with _ | i
  · have hnot : id ∉ w.tables.sends := fun hmem =>
      absurd (hinv.tables.sent id hmem) (not_lt.mpr (List.getElem?_eq_none_iff.mp hi))
    rw [List.count_eq_zero.mpr hnot]
    exact Nat.zero_le _
  · exact (hinv.tables.rows id i hi).sends.trans (hspent id i hi).1

end Attempts

/-! ### Every run -/

section Runs

theorem inv_empty : Inv {} := by
  refine ⟨⟨fun id i hi => ?_, nofun, nofun⟩, trivial⟩
  cases hi

theorem spent_empty : Spent {} := by
  intro id i hi
  cases hi

/-- **What becomes of an alert intent.** In every run in which the last attempt of an intent is
not interrupted before it is settled or on record as sent, no intent is sent more often than
there are attempts, a permanent failure is reported once, what is not settled is taken up again,
what is settled stays as it is, and what was sent is not sent again. -/
theorem delivery_contract (es : List Event)
    (h : Run.Meets step (fun w e => undisturbed w e = true) {} es) :
    Bounded (Run.run step {} es) ∧ Reported (Run.run step {} es) ∧ Released (Run.run step {} es) ∧
      ∀ e, SettledKept (Run.run step {} es) e ∧ SentOnce (Run.run step {} es) e := by
  have hboth : Inv (Run.run step {} es) ∧ Spent (Run.run step {} es) :=
    @Run.invariant_of_meets _ _ step (fun w => Inv w ∧ Spent w) _
      (fun w e hw hcalm => ⟨hw.1.step e, hw.2.step hw.1 hcalm⟩) _ es ⟨inv_empty, spent_empty⟩ h
  obtain ⟨hinv, hspent⟩ := hboth
  exact ⟨bounded hinv hspent, reported hinv, released hinv,
    fun e => ⟨settledKept hinv e, sentOnce hinv e⟩⟩

/-- The process goes on, and nothing fails. -/
def goOn : Event := .run { audience := [(.email, 3)] } .done

/-- An alert is raised, and an intent made of it. -/
def raised : List Event :=
  [.raise ⟨"reroute_failed", by decide⟩ true ("reroute:7" : Text), .start, goOn, goOn]

/-- A pass that claims the intent and sends it, but cannot write that down. -/
def lostRecord : List Event :=
  [goOn, goOn, goOn, goOn, goOn, .run {} (.failed false), goOn, goOn, .wait 301, goOn]

/-- The record of one send is lost; the next pass sends again, and settles the intent. -/
def recoveredRun : List Event := raised ++ lostRecord ++ List.replicate 7 goOn

theorem delivery_contract_recoveredRun :
    Bounded (Run.run step {} recoveredRun) ∧ Reported (Run.run step {} recoveredRun) ∧
      Released (Run.run step {} recoveredRun) ∧
      ∀ e, SettledKept (Run.run step {} recoveredRun) e ∧
        SentOnce (Run.run step {} recoveredRun) e :=
  delivery_contract recoveredRun (by decide +kernel)

/-- The record of every send is lost: the sixth pass sends a sixth time. -/
theorem not_bounded_lostRecords :
    ¬ Bounded (Run.run step {} (raised ++ (List.replicate 6 lostRecord).flatten)) := by
  intro h
  have hcount := h 0
  revert hcount
  decide +kernel

end Runs

end Rerouter.Alerts
