import Mathlib.Data.List.Dedup
import Mathlib.Data.List.Sort
import Mathlib.Data.Prod.Lex
import Rerouter.Lib.Text

/-!
# The alert dispatcher

An alert is delivered to every recipient and endpoint subscribed to it, and each of these
deliveries is a durable *intent*. The dispatcher polls the intents that are due, takes a claim on
one after the other, and sends it: `Rerouter.Alerts.Stage` is the place it has reached within one
intent, and every stage is one statement, or one transaction, or the call of the sender.

A statement may fail with or without having taken effect, and the process may stop at any point
and be started again. What is in the tables then is all that is left of the pass; the claim on
the intent runs out after `Rerouter.Alerts.claimLeaseSecs`, and the next pass takes the intent up
from the start.
-/

namespace Rerouter.Alerts

open Text

/-! ### Constants -/

/-- `DEDUP_WINDOW_SECS`. -/
def dedupWindowSecs : ℕ := 600

/-- `RATE_LIMIT_PER_HOUR`. -/
def rateLimitPerHour : ℕ := 20

/-- `CRITICAL_SLOTS`. -/
def criticalSlots : ℕ := 40

/-- `NORMAL_SLOTS`. -/
def normalSlots : ℕ := 10

/-- `MAX_DELIVERY_ATTEMPTS`. -/
def maxDeliveryAttempts : ℕ := 5

/-- `RETRY_BACKOFF_SECS`. -/
def retryBackoffSecs : ℕ := 300

/-- `CLAIM_LEASE_SECS`. -/
def claimLeaseSecs : ℕ := 120

/-- The event of an alert about a delivery that was given up. -/
def permanentlyFailed : Text := "alert_delivery_permanently_failed"

/-- `ALWAYS_IMMEDIATE`: the events that are neither deduplicated nor rate limited. -/
def alwaysImmediate : List Text :=
  ["reroute_uncertain", "reroute_bundle_partial", "reroute_failed", "2fa_recovery_used",
      "account_locked",
    "operating_mode_changed", "automatic_actions_changed", "global_lock_changed",
    "automatic_action_failed",
    "recovery_degraded", "rule_auto_disarmed", permanentlyFailed]

/-! ### The tables -/

/-- `channel`. -/
inductive Channel where
  | email | teams
deriving DecidableEq

/-- `alert_delivery_intents.state`. -/
inductive IntentState where
  | pending | retry | settled
deriving DecidableEq

/-- `alert_delivery_intents.outcome`. -/
inductive IntentOutcome where
  | sent | suppressed | permanentFailure | noAudience
deriving DecidableEq

/-- `alert_deliveries.status`. -/
inductive DeliveryStatus where
  | queued | sent | failed
deriving DecidableEq

/-- A row of `alerts`; its id is its place in the table. -/
structure Alert where
  eventType : Text
  /-- `severity = 'critical'`. -/
  critical : Bool
  dedupKey : Text
deriving DecidableEq

/-- `claim_token` and `claimed_at`, which are set and cleared together. -/
structure Claim where
  token : ℕ
  claimedAt : ℕ
deriving DecidableEq

/-- A row of `alert_delivery_intents`; its id is its place in the table. -/
structure Intent where
  alert : ℕ
  channel : Channel
  /-- `recipient_id` or `endpoint_id`, by the channel. -/
  target : Option ℕ
  state : IntentState := .pending
  outcome : Option IntentOutcome := none
  attemptCount : ℕ := 0
  nextAttemptAt : ℕ
  claim : Option Claim := none
deriving DecidableEq

/-- `state IN ('pending','retry')`. -/
def Intent.isOpen (i : Intent) : Bool := decide (i.state ≠ .settled)

/-- A row of `alert_deliveries`. -/
structure Delivery where
  /-- `delivery_intent_id`. -/
  intent : ℕ
  alert : ℕ
  channel : Channel
  target : Option ℕ
  status : DeliveryStatus
  createdAt : ℕ
deriving DecidableEq

/-- The tables, and the calls of the sender made so far. -/
structure Tables where
  alerts : List Alert := []
  intents : List Intent := []
  deliveries : List Delivery := []
  /-- The intents that were sent, once for each call. -/
  sends : List ℕ := []

/-- An intent that is due, as it was read, with its alert. -/
structure DueIntent where
  id : ℕ
  intent : Intent
  alert : Alert
deriving DecidableEq

namespace Tables

/-- `UPDATE alert_delivery_intents SET f WHERE id = … AND p`. -/
def updateIntent (t : Tables) (id : ℕ) (p : Intent → Bool) (f : Intent → Intent) : Tables :=
  { t with intents := t.intents.modify id fun i => if p i then f i else i }

/-- `INSERT IGNORE INTO alert_delivery_intents`. -/
def insertIntent (t : Tables) (row : Intent) : Tables :=
  if t.intents.any fun i => decide (i.alert = row.alert) && decide (i.channel = row.channel) &&
      decide (i.target = row.target) then t
  else { t with intents := t.intents ++ [row] }

/-- The alerts without an intent, oldest first. -/
def unmaterialized (t : Tables) (critical : Bool) : List ℕ :=
  (List.range t.alerts.length).filter fun id =>
    (t.alerts[id]?.any fun a => a.critical == critical) && !t.intents.any fun i => i.alert = id

/-- The alerts `materialize_batch` takes. -/
def pendingAlerts (t : Tables) : List ℕ :=
  (t.unmaterialized true).take criticalSlots ++ (t.unmaterialized false).take normalSlots

/-- `materialize_alert`: an intent for each target, or a settled one where there is none. -/
def materializeAlert (t : Tables) (now alert : ℕ) (audience : List (Channel × ℕ)) : Tables :=
  let t := audience.foldl (fun t a => t.insertIntent ⟨alert, a.1, some a.2, .pending, none, 0,
    now, none⟩) t
  if t.intents.any fun i => i.alert = alert then t
  else t.insertIntent ⟨alert, .email, none, .settled, some .noAudience, 0, now, none⟩

/-- An intent that may be claimed. -/
def selectable (now : ℕ) (i : Intent) : Bool :=
  i.isOpen && decide (i.nextAttemptAt ≤ now) && i.claim.all fun c =>
    decide (c.claimedAt + claimLeaseSecs < now)

/-- `ORDER BY next_attempt_at, alert_id, id`. -/
def dueKey (d : DueIntent) : ℕ ×ₗ ℕ ×ₗ ℕ :=
  toLex (d.intent.nextAttemptAt, toLex (d.intent.alert, d.id))

/-- The intents that may be claimed, of one class of alerts. -/
def dueOf (t : Tables) (now : ℕ) (critical : Bool) : List DueIntent :=
  (((List.range t.intents.length).filterMap fun id =>
      (t.intents[id]?.filter (selectable now)).bind fun i => t.alerts[i.alert]?.map fun a =>
        ⟨id, i, a⟩).filter
    fun d => d.alert.critical == critical).insertionSort fun a b => dueKey a ≤ dueKey b

/-- The intents one pass takes up. -/
def due (t : Tables) (now : ℕ) : List DueIntent :=
  (t.dueOf now true).take criticalSlots ++ (t.dueOf now false).take normalSlots

/-- `intent_already_sent`. -/
def alreadySent (t : Tables) (id : ℕ) : Bool :=
  t.deliveries.any fun d => decide (d.intent = id) && decide (d.status = .sent)

/-- A delivery that was sent to the target of an intent within a time. -/
def sentTo (now within : ℕ) (d : DueIntent) (r : Delivery) : Bool :=
  decide (r.status = .sent) && decide (r.channel = d.intent.channel) && r.target.isSome &&
    decide (r.target = d.intent.target) && decide (now ≤ r.createdAt + within)

/-- `recently_delivered`. -/
def recentlyDelivered (t : Tables) (now : ℕ) (d : DueIntent) : Bool :=
  t.deliveries.any fun r => sentTo now dedupWindowSecs d r &&
    t.alerts[r.alert]?.any fun a => decide (a.dedupKey = d.alert.dedupKey)

/-- `over_rate_limit`. -/
def overRateLimit (t : Tables) (now : ℕ) (d : DueIntent) : Bool :=
  decide (rateLimitPerHour ≤ (t.deliveries.filter (sentTo now 3600 d)).length)

/-- `record_attempt`. -/
def recordAttempt (t : Tables) (now : ℕ) (d : DueIntent) (status : DeliveryStatus) : Tables :=
  { t with
    deliveries := t.deliveries ++
      [⟨d.id, d.intent.alert, d.intent.channel, d.intent.target, status, now⟩] }

/-- The claim of a pass on an intent: `claim_token = …`. -/
def claimedBy (token : ℕ) (i : Intent) : Bool := i.claim.any fun c => decide (c.token = token)

/-- The claim of an intent that is due. -/
def claimIntent (t : Tables) (now token id : ℕ) : Tables :=
  t.updateIntent id (selectable now) fun i => { i with claim := some ⟨token, now⟩ }

/-- `start_attempt`. -/
def startAttempt (t : Tables) (id token : ℕ) : Tables :=
  t.updateIntent id (fun i => claimedBy token i && i.isOpen) fun i =>
    { i with attemptCount := i.attemptCount + 1 }

/-- `retry_intent`. -/
def retryIntent (t : Tables) (now id token : ℕ) : Tables :=
  t.updateIntent id (claimedBy token) fun i =>
    { i with state := .retry, nextAttemptAt := now + retryBackoffSecs, claim := none }

/-- `settle_intent`. -/
def settleIntent (t : Tables) (id token : ℕ) (outcome : IntentOutcome) : Tables :=
  t.updateIntent id (claimedBy token) fun i =>
    { i with state := .settled, outcome := some outcome, claim := none }

/-- The key of the alert about an intent that was given up. -/
def secondaryKey (id : ℕ) : Text :=
  ("alert_delivery_permanently_failed:intent:" : Text) ++ natText id

/-- `settle_permanent_failure`: one transaction. -/
def settlePermanentFailure (t : Tables) (token : ℕ) (d : DueIntent) : Tables :=
  let t := t.settleIntent d.id token .permanentFailure
  if d.alert.eventType = permanentlyFailed then t
  else { t with alerts := t.alerts ++ [⟨permanentlyFailed, true, secondaryKey d.id⟩] }

end Tables

/-! ### One intent -/

/-- An entry of the attempt log. -/
inductive Attempt where
  | suppressed | limited | sent | failed
deriving DecidableEq

/-- The status an attempt is logged with. -/
def Attempt.status : Attempt → DeliveryStatus
  | suppressed | limited => .queued
  | sent => .sent
  | failed => .failed

/-- The place `process_intent` has reached. -/
inductive Stage where
  | checkSent
  | checkRecent
  | checkRate
  | start
  | send
  | record (attempt : Attempt)
  | settleSent
  | settleSuppressed
  | retry
  | giveUp
  /-- `release_claim_after_internal_error`. -/
  | release
deriving DecidableEq

/-- What the world answers: whether mail is configured, whether a send succeeds, and who is
subscribed. -/
structure Answer where
  emailAvailable : Bool := true
  delivered : Bool := true
  audience : List (Channel × ℕ) := []

/-- What a stage does. -/
def Stage.effect (now token : ℕ) (d : DueIntent) (t : Tables) : Stage → Tables
  | checkSent | checkRecent | checkRate => t
  | start => t.startAttempt d.id token
  | send => { t with sends := d.id :: t.sends }
  | record attempt => t.recordAttempt now d attempt.status
  | settleSent => t.settleIntent d.id token .sent
  | settleSuppressed => t.settleIntent d.id token .suppressed
  | retry | release => t.retryIntent now d.id token
  | giveUp => t.settlePermanentFailure token d

/-- What comes after the rate limit: mail that is not configured is retried. -/
def gate (answer : Answer) (d : DueIntent) : Stage :=
  if d.intent.channel = .email ∧ answer.emailAvailable = false then .retry else .start

/-- The stage after one that went well, by what the tables held. -/
def Stage.next (now token : ℕ) (answer : Answer) (d : DueIntent) (t : Tables) : Stage → Option Stage
  | checkSent =>
    some (if t.alreadySent d.id then .settleSent
      else if d.alert.eventType ∈ alwaysImmediate then gate answer d else .checkRecent)
  | checkRecent => some (if t.recentlyDelivered now d then .record .suppressed else .checkRate)
  | checkRate => some (if t.overRateLimit now d then .record .limited else gate answer d)
  | start =>
    some (if t.intents[d.id]?.any fun i => Tables.claimedBy token i && i.isOpen then
      .send else .release)
  | send => some (.record (if answer.delivered then .sent else .failed))
  | record .suppressed => some .settleSuppressed
  | record .limited => some .retry
  | record .sent => some .settleSent
  | record .failed =>
    some (if maxDeliveryAttempts ≤ d.intent.attemptCount + 1 then .giveUp else .retry)
  | settleSent | settleSuppressed | retry | giveUp | release => none

/-! ### The process -/

/-- Where the process is. -/
inductive Process where
  | down
  /-- Between two passes. -/
  | idle
  | materializing (alerts : List ℕ)
  | draining (due : List DueIntent)
  | processing (intent : DueIntent) (token : ℕ) (stage : Stage) (due : List DueIntent)

/-- The dispatcher and its tables. -/
structure Dispatcher where
  tables : Tables := {}
  now : ℕ := 0
  /-- The claim tokens given out. -/
  tokens : ℕ := 0
  process : Process := .down

/-- How a statement ends. -/
inductive Fate where
  | done
  /-- An error, after the statement took effect or before. -/
  | failed (applied : Bool)
  /-- The process stops, after the statement took effect or before. -/
  | stopped (applied : Bool)
deriving DecidableEq

/-- Whether the statement took effect. -/
def Fate.applied : Fate → Bool
  | done => true
  | failed applied | stopped applied => applied

/-- What happens next. -/
inductive Event where
  /-- Another part of the controller raises an alert. -/
  | raise (eventType : {e : Text // e ≠ permanentlyFailed}) (critical : Bool) (dedupKey : Text)
  /-- Time passes. -/
  | wait (seconds : ℕ)
  /-- The process is started. -/
  | start
  /-- The process goes on. -/
  | run (answer : Answer) (fate : Fate)

/-- Where the process is after a stage. A failure of the sender is an attempt that failed; any
other error releases the claim, and an error of that ends the pass. -/
def afterStage (w : Dispatcher) (answer : Answer) (d : DueIntent) (token : ℕ) (stage : Stage)
    (rest : List DueIntent) : Fate → Process
  | .done =>
    match stage.next w.now token answer d w.tables with
    | none => .draining rest
    | some stage => .processing d token stage rest
  | .failed _ =>
    match stage with
    | .send => .processing d token (.record .failed) rest
    | .release => .idle
    | _ => .processing d token .release rest
  | .stopped _ => .down

/-- The process goes on. -/
def Dispatcher.go (w : Dispatcher) (answer : Answer) (fate : Fate) : Dispatcher :=
  -- an error outside of an intent ends the pass
  let ended (next : Process) : Process :=
    match fate with
    | .done => next
    | .failed _ => .idle
    | .stopped _ => .down
  match w.process with
  | .down => w
  | .idle => { w with process := ended (.materializing w.tables.pendingAlerts) }
  | .materializing [] => { w with process := ended (.draining (w.tables.due w.now)) }
  | .materializing (alert :: alerts) =>
    { w with
      tables := if fate.applied then w.tables.materializeAlert w.now alert answer.audience
        else w.tables
      process := ended (.materializing alerts) }
  | .draining [] => { w with process := ended .idle }
  | .draining (d :: due) =>
    { w with
      tables := if fate.applied then w.tables.claimIntent w.now w.tokens d.id else w.tables
      tokens := w.tokens + 1
      process := ended (if w.tables.intents[d.id]?.any (Tables.selectable w.now) then
        .processing d w.tokens .checkSent due else .draining due) }
  | .processing d token stage due =>
    { w with
      tables := if fate.applied then stage.effect w.now token d w.tables else w.tables
      process := afterStage w answer d token stage due fate }

/-- What an event does. -/
def step (w : Dispatcher) : Event → Dispatcher
  | .raise eventType critical dedupKey =>
    { w with
      tables := { w.tables with
        alerts := w.tables.alerts ++ [⟨eventType.1, critical, dedupKey⟩] } }
  | .wait seconds => { w with now := w.now + seconds }
  | .start =>
    match w.process with
    | .down => { w with process := .idle }
    | _ => w
  | .run answer fate => w.go answer fate

end Rerouter.Alerts
