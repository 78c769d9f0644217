import Mathlib.Data.Multiset.Count
import Mathlib.Data.Multiset.AddSub
import Mathlib.Logic.Function.Basic
import Mathlib.Order.Lattice
import Rerouter.Lib.LockOrder
import Rerouter.Lib.Run

/-!
# Advisory locks

A named lock of the database excludes other connections, counts how often one connection holds
it, and is given up when the connection closes. An *operation* of the controller keeps one
*session*, with one connection of a pool, for all the locks it takes; its locks are to be
acquired in the order of their labels, so that two operations cannot wait for one another.

Every `await` may be the last one of its future: an acquisition or a release that is cancelled
leaves a statement behind of which nobody knows whether it was carried out. The session is then
poisoned: it is to be used no more, and its connection is to be closed once nothing refers to it.

`Rerouter.Advisory.Session.step` says what the code between two awaits does to a session, and
what the database does with a statement of its connection; `Rerouter.Advisory.step` adds the
operations, with their slots for a session, and the pool. A failed query and a timeout do what a
cancellation does.
-/

namespace Rerouter.Advisory

/-! ### Sessions -/

/-- A statement that was sent to the database. -/
inductive Command (L : Type*) where
  /-- `SELECT GET_LOCK(?, 5)`. -/
  | getLock (label : L)
  /-- `SELECT RELEASE_LOCK(?)`. -/
  | releaseLock (label : L)
deriving DecidableEq

/-- A connection, and what the database keeps for it. -/
structure Connection (L : Type*) where
  /-- The statement that was sent and is not carried out yet. -/
  command : Option (Command L) := none
  /-- The answer to the last statement. -/
  answer : Option Bool := none
  /-- The locks it holds, each once for each time it is held. -/
  locks : Multiset L := 0

/-- What became of the connection of a session. -/
inductive Lease (L : Type*) where
  | held (connection : Connection L)
  /-- The session was dropped, and its connection closed. -/
  | closed
  /-- The session was dropped, and its connection returned to the pool. -/
  | returned

/-- Whether the connection went back to the pool. -/
def Lease.isReturned {L : Type*} : Lease L → Bool
  | returned => true
  | _ => false

/-- The future that has locked a session. -/
inductive Holder (L : Type*) where
  /-- `acquire`, its arm set, before `GET_LOCK` is sent. -/
  | naming (label : L)
  /-- `acquire`, waiting for `GET_LOCK`. -/
  | locking (label : L)
  /-- `release`, before `RELEASE_LOCK` is sent. -/
  | sending (label : L)
  /-- `release`, waiting for `RELEASE_LOCK`. -/
  | releasing (label : L)
deriving DecidableEq

/-- `Session`, and the futures and guards that refer to it. -/
structure Session (L : Type*) where
  operation : ℕ
  lease : Lease L := .held {}
  /-- `held`: a label once for each time it is counted. -/
  held : Multiset L := 0
  poisoned : Bool := false
  activeGuards : ℕ := 0
  inflightAcquisitions : ℕ := 0
  /-- Who has locked `inner`. -/
  holder : Option (Holder L) := none
  /-- The calls of `acquire` that were given the session and wait for it. -/
  acquires : Multiset L := 0
  /-- The guards that are live. -/
  guards : Multiset L := 0
  /-- The guards whose `release` waits for the session. -/
  releases : Multiset L := 0

/-- What may happen to a session. -/
inductive SessionEvent (L : Type*) where
  /-- `acquire` locks the session. -/
  | enter (label : L)
  /-- The holder sends its statement. -/
  | send
  /-- The database carries the statement out; a lock it could grant may still time out. -/
  | perform (granted : Bool)
  /-- The holder reads the answer. -/
  | read
  /-- A guard is dropped. -/
  | dropGuard (label : L)
  /-- `release` is called on a guard. -/
  | release (label : L)
  /-- `release` locks the session. -/
  | enterRelease (label : L)
  /-- A waiting `acquire` is cancelled. -/
  | cancelAcquire (label : L)
  /-- A waiting `release` is cancelled. -/
  | cancelRelease (label : L)
  /-- The holder is cancelled. -/
  | cancelHolder
deriving DecidableEq

variable {L : Type*}

namespace Connection

variable [DecidableEq L]

/-- The database carries a statement out. -/
def perform (k : Connection L) (granted : Bool) : Connection L :=
  match k.command with
  | none => k
  | some (.getLock label) =>
    if granted then { command := none, answer := some true, locks := label ::ₘ k.locks }
    else { k with command := none, answer := some false }
  | some (.releaseLock label) =>
    if label ∈ k.locks then { command := none, answer := some true, locks := k.locks.erase label }
    else { k with command := none, answer := some false }

end Connection

/-- The statement of a holder that has not sent it yet, and the holder once it has. -/
def Holder.statement : Holder L → Option (Command L × Holder L)
  | naming label => some (.getLock label, .locking label)
  | sending label => some (.releaseLock label, .releasing label)
  | _ => none

namespace Session

/-- An acquisition that was armed fails or is cancelled. -/
def failAcquire (r : Session L) : Session L :=
  { r with poisoned := true, inflightAcquisitions := r.inflightAcquisitions - 1, holder := none }

/-- A guard is dropped that was not released. -/
def failRelease (r : Session L) : Session L :=
  { r with poisoned := true, activeGuards := r.activeGuards - 1, holder := none }

/-- The holder is cancelled. -/
def cancel (r : Session L) : Session L :=
  match r.holder with
  | some (.naming _) | some (.locking _) => r.failAcquire
  | some (.sending _) | some (.releasing _) => r.failRelease
  | none => r

/-- Something other than the slot of its operation refers to a session: `Arc::strong_count > 1`. -/
def Referenced (r : Session L) : Prop :=
  r.acquires ≠ 0 ∨ r.guards ≠ 0 ∨ r.releases ≠ 0 ∨ r.holder ≠ none

/-- An acquisition, which keeps its operation alive. -/
def Acquiring (r : Session L) : Prop :=
  r.acquires ≠ 0 ∨ r.inflightAcquisitions ≠ 0

section
variable [DecidableEq L]

instance (r : Session L) : Decidable r.Referenced := inferInstanceAs (Decidable (_ ∨ _ ∨ _ ∨ _))

instance (r : Session L) : Decidable r.Acquiring := inferInstanceAs (Decidable (_ ∨ _))

end

/-- The locks its connection holds. -/
def locks (r : Session L) : Multiset L :=
  match r.lease with
  | .held k => k.locks
  | _ => 0

/-- The lock its connection waits for. -/
def wants (r : Session L) : Option L :=
  match r.lease with
  | .held ⟨some (.getLock label), _, _⟩ => some label
  | _ => none

/-- The answer to the last statement, once it is there. -/
def answer (r : Session L) : Option Bool :=
  match r.lease with
  | .held ⟨none, answer, _⟩ => answer
  | _ => none

/-- `Session::drop`: the connection is closed, or goes back to the pool. -/
def drop [DecidableEq L] (r : Session L) : Session L :=
  { r with lease := if r.poisoned = true ∨ r.held ≠ 0 then .closed else .returned }

variable [LinearOrder L]

/-- The holder reads the answer to its statement. -/
def read (r : Session L) (answer : Bool) : Session L :=
  match r.holder with
  | some (.locking label) =>
    if answer then
      { r with
        held := label ::ₘ r.held
        activeGuards := r.activeGuards + 1
        inflightAcquisitions := r.inflightAcquisitions - 1
        holder := none
        guards := label ::ₘ r.guards }
    else r.failAcquire
  | some (.releasing label) =>
    if answer then
      { r with held := r.held.erase label, activeGuards := r.activeGuards - 1, holder := none }
    else r.failRelease
  | _ => r

/-- The holder sends its statement; one that was left behind is waited for first, and its answer
thrown away. -/
def send (r : Session L) : Session L :=
  match r.holder.bind Holder.statement, r.lease with
  | some (command, holder), .held ⟨none, _, locks⟩ =>
    { r with lease := .held ⟨some command, none, locks⟩, holder := some holder }
  | _, _ => r

/-- `acquire`, once the session is locked: a label may be held already, or is above all that
are. -/
def enter (r : Session L) (label : L) : Session L :=
  if (∀ m ∈ r.held, m ≤ label) ∨ label ∈ r.held then
    { r with inflightAcquisitions := r.inflightAcquisitions + 1, holder := some (.naming label) }
  else r

/-- What an event does to a session; one that is not enabled does nothing. -/
def step (r : Session L) : SessionEvent L → Session L
  | .enter label =>
    if label ∈ r.acquires ∧ r.holder = none then
      { r with acquires := r.acquires.erase label }.enter label
    else r
  | .send => r.send
  | .perform granted =>
    match r.lease with
    | .held k => { r with lease := .held (k.perform granted) }
    | _ => r
  | .read => r.answer.elim r r.read
  | .dropGuard label =>
    if label ∈ r.guards then
      { r with
        poisoned := true, activeGuards := r.activeGuards - 1, guards := r.guards.erase label }
    else r
  | .release label =>
    if label ∈ r.guards then
      { r with guards := r.guards.erase label, releases := label ::ₘ r.releases }
    else r
  | .enterRelease label =>
    if label ∈ r.releases ∧ r.holder = none then
      { r with releases := r.releases.erase label, holder := some (.sending label) }
    else r
  | .cancelAcquire label => { r with acquires := r.acquires.erase label }
  | .cancelRelease label =>
    if label ∈ r.releases then
      { r with
        poisoned := true, activeGuards := r.activeGuards - 1, releases := r.releases.erase label }
    else r
  | .cancelHolder => r.cancel

end Session

/-! ### Operations and the pool -/

/-- `OperationInner`. -/
structure Operation (L : Type*) where
  /-- The number of its session. -/
  session : Option ℕ := none
  /-- The calls of `acquire` that wait for the slot. -/
  acquires : Multiset L := 0
  /-- The call of `acquire` that has locked the slot and waits for a connection. -/
  connecting : Option L := none
  ended : Bool := false

/-- The lock runtime: operations, the sessions made so far, and the connections that are idle. -/
structure System (L : Type*) where
  operations : ℕ → Operation L := fun _ => {}
  sessions : List (Session L) := []
  pool : List (Connection L) := []

/-- What may happen next. -/
inductive Event (L : Type*) where
  /-- `acquire` is called in an operation. -/
  | acquire (operation : ℕ) (label : L)
  /-- `acquire` locks the slot of its operation. -/
  | enterSlot (operation : ℕ) (label : L)
  /-- `acquire` gets an idle connection, or a new one. -/
  | connect (operation : ℕ) (idle : Option ℕ)
  /-- A call of `acquire` that waits for the slot is cancelled. -/
  | cancelSlot (operation : ℕ) (label : L)
  /-- The call of `acquire` that waits for a connection is cancelled. -/
  | cancelConnecting (operation : ℕ)
  | session (session : ℕ) (event : SessionEvent L)
  /-- The scope of an operation ends. -/
  | endOperation (operation : ℕ)
  /-- The last reference to a session is dropped. -/
  | dropSession (session : ℕ)
deriving DecidableEq

namespace System

variable [LinearOrder L] (w : System L)

def setOperation (o : ℕ) (op : Operation L) : System L :=
  { w with operations := Function.update w.operations o op }

def setSession (s : ℕ) (r : Session L) : System L := { w with sessions := w.sessions.set s r }

/-- No connection but that of a session holds a lock. -/
def Grantable (s : ℕ) (label : L) : Prop :=
  (∀ i < w.sessions.length, i ≠ s → ∀ r ∈ w.sessions[i]?, label ∉ r.locks) ∧
    ∀ k ∈ w.pool, label ∉ k.locks

instance (s : ℕ) (label : L) : Decidable (w.Grantable s label) :=
  inferInstanceAs (Decidable (_ ∧ _))

/-- What the database may do: it grants a lock to one connection at a time. -/
def granted (s : ℕ) (r : Session L) : SessionEvent L → SessionEvent L
  | .perform granted => .perform (granted && r.wants.all fun label => decide (w.Grantable s label))
  | e => e

/-- A session is dropped; its connection may go back to the pool. -/
def dropSession (s : ℕ) (r : Session L) : System L :=
  match r.lease with
  | .held k =>
    let w := w.setSession s r.drop
    if r.drop.lease.isReturned then { w with pool := k :: w.pool } else w
  | _ => w

/-- `OperationInner::session`, once the slot is locked: the session of the operation, unless it
is poisoned; a poisoned one that nothing refers to is replaced. -/
def enterSlot (o : ℕ) (label : L) : System L :=
  match (w.operations o).session with
  | none => w.setOperation o { w.operations o with connecting := some label }
  | some s =>
    match w.sessions[s]? with
    | none => w
    | some r =>
      if r.poisoned = false then w.setSession s { r with acquires := label ::ₘ r.acquires }
      else if r.activeGuards = 0 ∧ r.inflightAcquisitions = 0 ∧ ¬ r.Referenced then
        (w.setOperation o
          { w.operations o with session := none, connecting := some label }).dropSession s r
      else w

/-- The call of `acquire` gets its connection: a session is made, and given to it. -/
def connect (o : ℕ) (label : L) (k : Connection L) : System L :=
  let w :=
    w.setOperation o { w.operations o with session := some w.sessions.length, connecting := none }
  { w with sessions := w.sessions ++ [{ operation := o, lease := .held k, acquires := {label} }] }

/-- An operation with an acquisition on its way. -/
def Busy (o : ℕ) : Prop :=
  (w.operations o).acquires ≠ 0 ∨ (w.operations o).connecting ≠ none ∨
    ∃ r ∈ w.sessions, r.operation = o ∧ r.Acquiring

instance (o : ℕ) : Decidable (w.Busy o) := inferInstanceAs (Decidable (_ ∨ _ ∨ _))

end System

variable [LinearOrder L]

/-- What an event does; one that is not enabled does nothing. -/
def step (w : System L) : Event L → System L
  | .acquire o label =>
    let op := w.operations o
    if op.ended then w else w.setOperation o { op with acquires := label ::ₘ op.acquires }
  | .enterSlot o label =>
    let op := w.operations o
    if label ∈ op.acquires ∧ op.connecting = none then
      (w.setOperation o { op with acquires := op.acquires.erase label }).enterSlot o label
    else w
  | .connect o idle =>
    match (w.operations o).connecting, idle with
    | none, _ => w
    | some label, none => w.connect o label {}
    | some label, some i =>
      match w.pool[i]? with
      | none => w
      | some k => { w with pool := w.pool.eraseIdx i }.connect o label k
  | .cancelSlot o label =>
    let op := w.operations o
    w.setOperation o { op with acquires := op.acquires.erase label }
  | .cancelConnecting o => w.setOperation o { w.operations o with connecting := none }
  | .session s e =>
    match w.sessions[s]? with
    | none => w
    | some r => w.setSession s (r.step (w.granted s r e))
  | .endOperation o =>
    if w.Busy o then w else w.setOperation o { w.operations o with session := none, ended := true }
  | .dropSession s =>
    match w.sessions[s]? with
    | none => w
    | some r =>
      if (w.operations r.operation).session ≠ some s ∧ ¬ r.Referenced then w.dropSession s r else w

end Rerouter.Advisory
