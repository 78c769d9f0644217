import Mathlib.Data.List.Dedup
import Mathlib.Logic.Function.Basic
import Rerouter.Lib.Run
import Rerouter.Lib.Text

/-!
# The last superadmin

Users are created, changed and deleted by requests that run at the same time, each with its own
connection and transaction. A role is taken from a user only after the question whether somebody
else is a superadmin (`Rerouter.Users.isOnlySuperadmin`), and two requests that ask it at the same
time could each rely on the user the other one demotes. So the question and the commit stand under
one advisory lock, `users:superadmin-guard`: what a request has been told stays true until it
commits, since only a holder of the lock takes a role away, and the others only add some
(`Rerouter.Users.Told`).

Hence there is a user with the role of a superadmin in every state that is reached, whatever fails,
times out or loses its connection (`Rerouter.Users.superadmin_of_run`). And as every change is
committed with its audit row, the roles at any time are the ones that the audit log tells
(`Rerouter.Users.roles_eq_replay`).
-/

namespace Rerouter.Users

open Text

/-! ### The tables -/

/-- The roles. -/
inductive Role where
  | superadmin | admin | operator | viewer | auditor
deriving DecidableEq

/-- `ASSIGNABLE_ROLES`. -/
def assignableRoles : List (Text × Role) :=
  [("superadmin", .superadmin), ("admin", .admin), ("operator", .operator), ("viewer", .viewer),
    ("auditor", .auditor)]

/-- A row of `users`. -/
structure UserRow where
  id : ℕ
  name : Text
deriving DecidableEq

/-- A row of `role_user`. -/
structure RoleRow where
  user : ℕ
  role : Role
deriving DecidableEq

/-- A row of `audit_logs` about a user. -/
inductive AuditRow where
  | userCreated (user : ℕ) (role : Role)
  | userNameChanged (user : ℕ)
  | userRoleChanged (user : ℕ) (role : Role)
  | userDeleted (user : ℕ)
deriving DecidableEq

structure Db where
  users : List UserRow
  roles : List RoleRow
  audits : List AuditRow

/-- A statement that changes a table. -/
inductive Change where
  | insertUser (row : UserRow)
  | updateName (user : ℕ) (name : Text)
  /-- The rows of `role_user` go with it. -/
  | deleteUser (user : ℕ)
  | insertRole (row : RoleRow)
  | deleteRoles (user : ℕ)
  | insertAudit (row : AuditRow)

/-- What a statement does. -/
def Db.apply (db : Db) : Change → Db
  | .insertUser row => { db with users := db.users ++ [row] }
  | .updateName user name =>
    { db with users := db.users.map fun u => if u.id = user then { u with name } else u }
  | .deleteUser user =>
    { db with
      users := db.users.filter fun u => u.id ≠ user
      roles := db.roles.filter fun r => r.user ≠ user }
  | .insertRole row => { db with roles := db.roles ++ [row] }
  | .deleteRoles user => { db with roles := db.roles.filter fun r => r.user ≠ user }
  | .insertAudit row => { db with audits := db.audits ++ [row] }

/-- What a transaction does when it commits. -/
def Db.commit (db : Db) (changes : List Change) : Db := changes.foldl Db.apply db

/-- `is_only_superadmin_on`. -/
def isOnlySuperadmin (db : Db) (user : ℕ) : Bool :=
  let superadmins := db.roles.filter fun r => r.role = .superadmin
  if 1 < (superadmins.map RoleRow.user).dedup.length then false
  else superadmins.any fun r => r.user = user

/-! ### Requests -/

/-- A request that needs the lock. -/
inductive Request where
  | update (user : ℕ) (name : Option Text) (role : Option Role)
  | delete (user : ℕ)

/-- The user it is about. -/
def Request.user : Request → ℕ
  | update user _ _ => user
  | delete user => user

/-- Whether it can take the role of a superadmin away. -/
def Request.demotes : Request → Bool
  | update _ _ role => role.any fun r => r ≠ .superadmin
  | delete _ => true

/-- What it writes. -/
def Request.changes : Request → List Change
  | update user name role =>
    (match name with
      | some name => [.updateName user name, .insertAudit (.userNameChanged user)]
      | none => []) ++
    match role with
    | some role => [.deleteRoles user, .insertRole ⟨user, role⟩,
        .insertAudit (.userRoleChanged user role)]
    | none => []
  | delete user => [.insertAudit (.userDeleted user), .deleteUser user]

/-- What `create` writes, for the number that the table gave out. -/
def createChanges (id : ℕ) (name : Text) (role : Role) : List Change :=
  [.insertUser ⟨id, name⟩, .insertRole ⟨id, role⟩, .insertAudit (.userCreated id role)]

/-- What a request ends with. -/
inductive Outcome where
  | ok
  | notFound
  /-- `CONFLICT`, or a body that is not accepted. -/
  | refused (reason : Text)
  | failed
deriving DecidableEq

/-- How far a request is. -/
inductive Phase where
  /-- `GET_LOCK` is sent. -/
  | waiting (request : Request)
  /-- The lock is held. -/
  | guarded (request : Request)
  /-- The row of the user is locked. -/
  | found (request : Request)
  /-- The user is not the last superadmin, as far as that matters. -/
  | cleared (request : Request)
  /-- The statements are carried out, and not committed. -/
  | written (request : Request)
  /-- The transaction is over, and the lock still held. -/
  | leaving (outcome : Outcome)
  /-- `create` has carried its statements out. -/
  | created (id : ℕ) (name : Text) (role : Role)
  | done (outcome : Outcome)

/-- Whether the lock is held. -/
def Phase.guards : Phase → Bool
  | guarded _ | found _ | cleared _ | written _ | leaving _ => true
  | _ => false

/-- The body of a call. -/
inductive Body where
  /-- The password with its length. -/
  | create (email name role : Text) (passwordLen : ℕ)
  | update (user : ℕ) (name role : Option Text)
  | delete (user : ℕ)

structure System where
  db : Db
  /-- The next number that `users` gives out. -/
  nextId : ℕ
  /-- The request whose connection holds the lock. -/
  guard : Option ℕ
  calls : ℕ → Option Phase

/-- What happens. -/
inductive Event where
  | call (i actor : ℕ) (body : Body)
  | getLock (i : ℕ)
  /-- `GET_LOCK` gives up after five seconds. -/
  | timeout (i : ℕ)
  /-- `BEGIN`, and `SELECT … FOR UPDATE`. -/
  | find (i : ℕ)
  | check (i : ℕ)
  | write (i : ℕ)
  | commit (i : ℕ)
  | releaseLock (i : ℕ)
  /-- A statement of the transaction fails, and it is rolled back. -/
  | fail (i : ℕ)
  /-- The connection is gone, and the transaction and the lock with it. -/
  | lost (i : ℕ)
  /-- `create_admin` inserts a user. -/
  | bootstrapUser (name : Text)
  /-- It makes a user a superadmin. -/
  | bootstrapRole (user : ℕ)

/-- The phase of a call: what the handlers check before they use the database. `create` runs its
own transaction, without the lock. -/
def enter (actor nextId : ℕ) : Body → Phase
  | .create email name role passwordLen =>
    if trim email = [] ∨ trim name = [] then .done (.refused "email and name are required")
    else
      match assignableRoles.lookup role with
      | none => .done (.refused "role must be superadmin, admin, operator, viewer, or auditor")
      | some role =>
        if passwordLen < 12 then .done (.refused "password must be at least 12 characters")
        else .created nextId (trim name) role
  | .update user name role =>
    if (name.map trim).any fun n => n.isEmpty then .done (.refused "name must not be empty")
    else
      match role with
      | none => .waiting (.update user (name.map trim) none)
      | some role =>
        match assignableRoles.lookup role with
        | none => .done (.refused "role must be superadmin, admin, operator, viewer, or auditor")
        | some role => .waiting (.update user (name.map trim) (some role))
  | .delete user =>
    if user = actor then .done (.refused "you cannot delete your own account")
    else .waiting (.delete user)

/-- The refusal of a request. -/
def Request.refusal : Request → Text
  | update .. => "cannot demote the last superadmin"
  | delete _ => "cannot delete the last superadmin"

namespace System

/-- A request, from now on in a phase. -/
def put (s : System) (i : ℕ) (phase : Phase) : System :=
  { s with calls := Function.update s.calls i (some phase) }

/-- The lock of a request is given up. -/
def unlock (s : System) (i : ℕ) : System :=
  if s.guard = some i then { s with guard := none } else s

end System

/-- What an event does. -/
def step (s : System) : Event → System
  | .call i actor body =>
    match s.calls i with
    | none => { s.put i (enter actor s.nextId body) with nextId := s.nextId + 1 }
    | some _ => s
  | .getLock i =>
    match s.calls i, s.guard with
    | some (.waiting request), none => { s.put i (.guarded request) with guard := some i }
    | _, _ => s
  | .timeout i =>
    match s.calls i with
    | some (.waiting _) => s.put i (.done .failed)
    | _ => s
  | .find i =>
    match s.calls i with
    | some (.guarded request) =>
      if s.db.users.any fun u => u.id = request.user then s.put i (.found request)
      else s.put i (.leaving .notFound)
    | _ => s
  | .check i =>
    match s.calls i with
    | some (.found request) =>
      if request.demotes && isOnlySuperadmin s.db request.user then
        s.put i (.leaving (.refused request.refusal))
      else s.put i (.cleared request)
    | _ => s
  | .write i =>
    match s.calls i with
    | some (.cleared request) => s.put i (.written request)
    | _ => s
  | .commit i =>
    match s.calls i with
    | some (.written request) =>
      { s.put i (.leaving .ok) with db := s.db.commit request.changes }
    | some (.created id name role) =>
      { s.put i (.done .ok) with db := s.db.commit (createChanges id name role) }
    | _ => s
  | .releaseLock i =>
    match s.calls i with
    | some (.leaving outcome) => (s.put i (.done outcome)).unlock i
    | _ => s
  | .fail i =>
    match s.calls i with
    | some (.guarded _) | some (.found _) | some (.cleared _) | some (.written _) =>
      s.put i (.leaving .failed)
    | some (.created ..) => s.put i (.done .failed)
    | _ => s
  | .lost i =>
    match s.calls i with
    | none => s
    | some _ => (s.put i (.done .failed)).unlock i
  | .bootstrapUser name =>
    { s with
      db := s.db.apply (.insertUser ⟨s.nextId, name⟩)
      nextId := s.nextId + 1 }
  | .bootstrapRole user =>
    -- `INSERT IGNORE`, with a foreign key.
    if (s.db.users.any fun u => u.id = user) && !decide (⟨user, .superadmin⟩ ∈ s.db.roles) then
      { s with db := s.db.apply (.insertRole ⟨user, .superadmin⟩) }
    else s

/-! ### What the audit log tells -/

/-- The roles, as an audit row tells them. -/
def replay (roles : List RoleRow) : AuditRow → List RoleRow
  | .userCreated user role => roles ++ [⟨user, role⟩]
  | .userNameChanged _ => roles
  | .userRoleChanged user role => roles.filter (fun r => r.user ≠ user) ++ [⟨user, role⟩]
  | .userDeleted user => roles.filter fun r => r.user ≠ user

/-- The audit rows of a request. -/
def Request.audits : Request → List AuditRow
  | update user name role =>
    name.toList.map (fun _ => .userNameChanged user) ++ role.toList.map (.userRoleChanged user)
  | delete user => [.userDeleted user]

/-- **The roles of a request are committed with the audit rows that tell them.** -/
theorem commit_changes (db : Db) (request : Request) :
    (db.commit request.changes).roles = request.audits.foldl replay db.roles ∧
      (db.commit request.changes).audits = db.audits ++ request.audits := by
  rcases request with ⟨user, name, role⟩ | user
  · rcases name with _ | name <;> rcases role with _ | role <;>
      simp [Db.commit, Db.apply, Request.changes, Request.audits, replay]
  · simp [Db.commit, Db.apply, Request.changes, Request.audits, replay]

/-! ### What a transaction changes -/

/-- A user with a number. -/
def Present (db : Db) (user : ℕ) : Prop := ∃ u ∈ db.users, u.id = user

/-- Somebody else is a superadmin. -/
def Another (db : Db) (user : ℕ) : Prop := ∃ r ∈ db.roles, r.role = .superadmin ∧ r.user ≠ user

/-- Somebody is. -/
def Someone (db : Db) : Prop := ∃ r ∈ db.roles, r.role = .superadmin

/-- The foreign key of `role_user`. -/
def Keyed (db : Db) : Prop := ∀ r ∈ db.roles, Present db r.user

section Changes

variable {db : Db} {request : Request} {user : ℕ}

/-- **The question**: whether somebody else is a superadmin, where somebody is. -/
theorem another_of_not_only (hsomeone : Someone db) (h : isOnlySuperadmin db user = false) :
    Another db user := by
  by_contra hnone
  have hall : ∀ r ∈ db.roles, r.role = .superadmin → r.user = user := by
    intro r hr hrole
    by_contra hne
    exact hnone ⟨r, hr, hrole, hne⟩
  obtain ⟨r, hr, hrole⟩ := hsomeone
  have hmem : r ∈ db.roles.filter fun r => r.role = .superadmin :=
    List.mem_filter.mpr ⟨hr, decide_eq_true hrole⟩
  unfold isOnlySuperadmin at h
  dsimp only at h
  split_ifs at h with hmany
  · -- All the rows are of one user, so that only one is left of them.
    have hsub : ((db.roles.filter fun r => r.role = .superadmin).map RoleRow.user).dedup ⊆
        [user] := by
      intro u hu
      obtain ⟨r, hr, rfl⟩ := List.mem_map.mp (List.mem_dedup.mp hu)
      obtain ⟨hr, hrole⟩ := List.mem_filter.mp hr
      exact List.mem_singleton.mpr (hall r hr (of_decide_eq_true hrole))
    have hlen := List.Nodup.length_le_of_subset (List.nodup_dedup _) hsub
    rw [List.length_singleton] at hlen
    omega
  · exact List.any_eq_false.mp h r hmem (decide_eq_true (hall r hr hrole))

/-- The roles of the other users stay. -/
theorem roles_commit_of_ne {r : RoleRow} (hr : r ∈ db.roles) (hne : r.user ≠ request.user) :
    r ∈ (db.commit request.changes).roles := by
  rw [(commit_changes db request).1]
  rcases request with ⟨user, name, role⟩ | user
  · have hother : r.user ≠ user := hne
    rcases name with _ | name <;> rcases role with _ | role <;>
      simp [Request.audits, replay, hr, hother]
  · have hother : r.user ≠ user := hne
    simp [Request.audits, replay, hr, hother]

/-- A request that demotes nobody leaves the roles, or makes somebody a superadmin. -/
theorem someone_of_not_demotes (hsomeone : Someone db) (h : request.demotes = false) :
    Someone (db.commit request.changes) := by
  obtain ⟨r, hr, hrole⟩ := hsomeone
  rw [Someone, (commit_changes db request).1]
  rcases request with ⟨user, name, role⟩ | user
  · rcases role with _ | role
    · exact ⟨r, by rcases name with _ | name <;> simpa [Request.audits, replay] using hr, hrole⟩
    · obtain rfl : role = .superadmin := by simpa [Request.demotes] using h
      exact ⟨⟨user, .superadmin⟩, by rcases name with _ | name <;> simp [Request.audits, replay],
        rfl⟩
  · cases h

theorem present_commit {user : ℕ} (hne : user ≠ request.user ∨ ∃ u n r, request = .update u n r)
    (h : Present db user) : Present (db.commit request.changes) user := by
  obtain ⟨u, hu, rfl⟩ := h
  rcases request with ⟨target, name, role⟩ | target
  · have hmem : ∀ n : Text, Present ({ db with
        users := db.users.map fun u => if u.id = target then { u with name := n } else u } : Db)
          u.id := by
      intro n
      refine ⟨_, List.mem_map.mpr ⟨u, hu, rfl⟩, ?_⟩
      split_ifs <;> rfl
    rcases name with _ | name <;> rcases role with _ | role
    · exact ⟨u, hu, rfl⟩
    · exact ⟨u, hu, rfl⟩
    · exact hmem name
    · exact hmem name
  · rcases hne with hne | ⟨_, _, _, hne⟩
    · have hne : u.id ≠ target := hne
      exact ⟨u, by simpa [Db.commit, Db.apply, Request.changes] using ⟨hu, hne⟩, rfl⟩
    · cases hne

/-- The rows that a request writes are of its user. -/
theorem mem_roles_commit {r : RoleRow} (h : r ∈ (db.commit request.changes).roles) :
    r ∈ db.roles ∧ (r.user ≠ request.user ∨ ∃ u n r, request = .update u n r) ∨
      r.user = request.user ∧ ∃ u n r, request = .update u n r := by
  rw [(commit_changes db request).1] at h
  rcases request with ⟨user, name, role⟩ | user
  · rcases name with _ | name <;> rcases role with _ | role <;>
      simp [Request.audits, replay, Request.user] at h ⊢ <;> grind
  · simpa [Request.audits, replay, Request.user] using h

theorem keyed_commit (hkeyed : Keyed db) (hpresent : Present db request.user) :
    Keyed (db.commit request.changes) := by
  intro r hr
  rcases mem_roles_commit hr with ⟨hr, hother⟩ | ⟨heq, hupdate⟩
  · exact present_commit hother (hkeyed r hr)
  · rw [heq]
    exact present_commit (Or.inr hupdate) hpresent

/-- What a new user adds. -/
theorem commit_create (db : Db) (id : ℕ) (name : Text) (role : Role) :
    (db.commit (createChanges id name role)).users = db.users ++ [⟨id, name⟩] ∧
      (db.commit (createChanges id name role)).roles = db.roles ++ [⟨id, role⟩] ∧
      (db.commit (createChanges id name role)).audits = db.audits ++ [.userCreated id role] :=
  ⟨rfl, rfl, rfl⟩

end Changes

/-! ### The invariant -/

/-- The request of a phase in which its user was found. -/
def Phase.found? : Phase → Option Request
  | found request | cleared request | written request => some request
  | _ => none

/-- The request of a phase in which the question was asked. -/
def Phase.cleared? : Phase → Option Request
  | cleared request | written request => some request
  | _ => none

/-- What a request has been told is true. -/
structure Told (db : Db) (phase : Phase) : Prop where
  present : ∀ request ∈ phase.found?, Present db request.user
  another : ∀ request ∈ phase.cleared?, request.demotes = true → Another db request.user

/-- What holds in every state that is reached. -/
structure Inv (s : System) : Prop where
  holds : ∀ i, ∀ phase ∈ s.calls i, phase.guards = true → s.guard = some i
  told : ∀ i, ∀ phase ∈ s.calls i, Told s.db phase
  keyed : Keyed s.db
  someone : Someone s.db

variable {s : System} {i : ℕ} {phase : Phase} {request : Request}

theorem put_calls (s : System) (i : ℕ) (phase : Phase) (j : ℕ) :
    (s.put i phase).calls j = if j = i then some phase else s.calls j :=
  Function.update_apply _ _ _ _

/-- A request goes on to a phase that it is entitled to. -/
theorem Inv.put (h : Inv s) (hguard : phase.guards = true → s.guard = some i)
    (htold : Told s.db phase) : Inv (s.put i phase) where
  holds := by
    intro j p hp
    rw [put_calls] at hp
    split_ifs at hp with hj
    · rw [hj, ← Option.mem_some_iff.mp hp]
      exact hguard
    · exact h.holds j p hp
  told := by
    intro j p hp
    rw [put_calls] at hp
    split_ifs at hp with hj
    · rw [← Option.mem_some_iff.mp hp]
      exact htold
    · exact h.told j p hp
  keyed := h.keyed
  someone := h.someone

theorem told_of_none (db : Db) (hfound : phase.found? = none) (hcleared : phase.cleared? = none) :
    Told db phase where
  present request hr := by rw [hfound] at hr; cases hr
  another request hr := by rw [hcleared] at hr; cases hr

/-- What a phase without a question is told is nothing. -/
theorem Inv.putOver (h : Inv s) (hguard : phase.guards = true → s.guard = some i)
    (hfound : phase.found? = none) (hcleared : phase.cleared? = none) : Inv (s.put i phase) :=
  h.put hguard (told_of_none s.db hfound hcleared)

/-- A lock is given up by a request that is over. -/
theorem Inv.unlock (h : Inv s) (hover : ∀ phase ∈ s.calls i, phase.guards = false) :
    Inv (s.unlock i) := by
  unfold System.unlock
  split_ifs with hguard
  · refine ⟨fun j p hp hguards => ?_, h.told, h.keyed, h.someone⟩
    have hj := h.holds j p hp hguards
    rw [hguard] at hj
    obtain rfl := Option.some.inj hj
    rw [hover p hp] at hguards
    cases hguards
  · exact h

/-- A request is over, and gives its lock up. -/
theorem Inv.over (h : Inv s) (i : ℕ) (outcome : Outcome) :
    Inv ((s.put i (.done outcome)).unlock i) := by
  have hput : Inv (s.put i (.done outcome)) := h.putOver (fun hg => by cases hg) rfl rfl
  refine hput.unlock fun p hp => ?_
  rw [put_calls, if_pos rfl] at hp
  rw [← Option.mem_some_iff.mp hp]
  rfl

/-- A lock that nobody holds is taken. -/
theorem Inv.lock (h : Inv s) (hfree : s.guard = none) (i : ℕ) :
    Inv { s with guard := some i } where
  holds j p hp hguards := by
    have hj := h.holds j p hp hguards
    rw [hfree] at hj
    cases hj
  told := h.told
  keyed := h.keyed
  someone := h.someone

/-- The tables grow. -/
structure Grows (db db' : Db) : Prop where
  users : ∀ u ∈ db.users, u ∈ db'.users
  roles : ∀ r ∈ db.roles, r ∈ db'.roles
  keyed : ∀ r ∈ db'.roles, r ∈ db.roles ∨ Present db' r.user

theorem Grows.told {db db' : Db} (h : Grows db db') (htold : Told db phase) : Told db' phase where
  present request hr := by
    obtain ⟨u, hu, hid⟩ := htold.present request hr
    exact ⟨u, h.users u hu, hid⟩
  another request hr hdemotes := by
    obtain ⟨r, hmem, hrole, hne⟩ := htold.another request hr hdemotes
    exact ⟨r, h.roles r hmem, hrole, hne⟩

/-- What adds to the tables makes nothing untrue. -/
theorem Inv.grow (h : Inv s) {db : Db} (hgrows : Grows s.db db) : Inv { s with db } where
  holds := h.holds
  told j p hp := hgrows.told (h.told j p hp)
  keyed := by
    intro r hr
    rcases hgrows.keyed r hr with hr | hpresent
    · obtain ⟨u, hu, hid⟩ := h.keyed r hr
      exact ⟨u, hgrows.users u hu, hid⟩
    · exact hpresent
  someone := by
    obtain ⟨r, hr, hrole⟩ := h.someone
    exact ⟨r, hgrows.roles r hr, hrole⟩

/-- **A request commits what it was told it may**, while nobody else holds the lock. -/
theorem Inv.commit (h : Inv s) (hi : s.calls i = some (.written request)) :
    Inv { s.put i (.leaving .ok) with db := s.db.commit request.changes } := by
  have hguard := h.holds i _ hi rfl
  have htold := h.told i _ hi
  -- No other request was told anything: it would hold the lock.
  have hothers : ∀ j p, j ≠ i → p ∈ s.calls j → p.guards = false := by
    intro j p hj hp
    by_contra hguards
    have hholds := h.holds j p hp (Bool.eq_true_of_not_eq_false hguards)
    rw [hguard] at hholds
    exact hj (Option.some.inj hholds).symm
  refine ⟨?_, ?_, keyed_commit h.keyed (htold.present request rfl), ?_⟩
  · exact (h.putOver (fun _ => hguard) rfl rfl).holds
  · intro j p hp
    rw [show ({ s.put i (.leaving .ok) with db := s.db.commit request.changes } : System).calls j =
      (s.put i (.leaving .ok)).calls j from rfl, put_calls] at hp
    split_ifs at hp with hj
    · rw [← Option.mem_some_iff.mp hp]
      exact told_of_none _ rfl rfl
    · have hfree := hothers j p hj hp
      cases p <;> first | exact told_of_none _ rfl rfl | cases hfree
  · cases hdemotes : request.demotes with
    | false => exact someone_of_not_demotes h.someone hdemotes
    | true =>
      obtain ⟨r, hr, hrole, hne⟩ := htold.another request rfl hdemotes
      exact ⟨r, roles_commit_of_ne hr hne, hrole⟩

theorem enter_over (actor nextId : ℕ) (body : Body) :
    (enter actor nextId body).guards = false ∧ (enter actor nextId body).found? = none ∧
      (enter actor nextId body).cleared? = none := by
  cases body <;> unfold enter <;> (repeat' split) <;> exact ⟨rfl, rfl, rfl⟩

/-- **Every step keeps the invariant.** -/
theorem inv_step (s : System) (e : Event) (h : Inv s) : Inv (step s e) := by
  cases e with
  | call i actor body =>
    rw [step]
    split
    · obtain ⟨hguards, hfound, hcleared⟩ := enter_over actor s.nextId body
      have hput : Inv (s.put i (enter actor s.nextId body)) :=
        h.putOver (fun hg => by rw [hguards] at hg; cases hg) hfound hcleared
      exact ⟨hput.holds, hput.told, hput.keyed, hput.someone⟩
    · exact h
  | getLock i =>
    rw [step]
    split
    · rename_i request hi hfree
      exact (h.lock hfree i).putOver (fun _ => rfl) rfl rfl
    · exact h
  | timeout i =>
    rw [step]
    split
    · exact h.putOver (fun hg => by cases hg) rfl rfl
    · exact h
  | find i =>
    rw [step]
    split
    · rename_i request hi
      have hguard := h.holds i _ hi rfl
      split_ifs with hany
      · refine h.put (fun _ => hguard) ⟨fun r hr => ?_, fun r hr => by cases hr⟩
        obtain rfl := Option.mem_some_iff.mp hr
        obtain ⟨u, hu, hid⟩ := List.any_eq_true.mp hany
        exact ⟨u, hu, of_decide_eq_true hid⟩
      · exact h.putOver (fun _ => hguard) rfl rfl
    · exact h
  -- the last superadmin is refused here, under the guard, so the write leaves another one
  | check i =>
    rw [step]
    split
    · rename_i request hi
      have hguard := h.holds i _ hi rfl
      split_ifs with honly
      · exact h.putOver (fun _ => hguard) rfl rfl
      · refine h.put (fun _ => hguard) ⟨(h.told i _ hi).present, fun r hr hdemotes => ?_⟩
        obtain rfl := Option.mem_some_iff.mp hr
        rw [hdemotes, Bool.true_and] at honly
        exact another_of_not_only h.someone (Bool.eq_false_of_not_eq_true honly)
    · exact h
  | write i =>
    rw [step]
    split
    · rename_i request hi
      exact h.put (fun _ => h.holds i _ hi rfl) ⟨(h.told i _ hi).present, (h.told i _ hi).another⟩
    · exact h
  | commit i =>
    rw [step]
    split
    · rename_i request hi
      exact h.commit hi
    · rename_i id name role hi
      have hput : Inv (s.put i (.done .ok)) := h.putOver (fun hg => by cases hg) rfl rfl
      obtain ⟨husers, hroles, -⟩ := commit_create s.db id name role
      refine hput.grow ⟨fun u hu => ?_, fun r hr => ?_, fun r hr => ?_⟩
      · rw [husers]
        exact List.mem_append_left _ hu
      · rw [hroles]
        exact List.mem_append_left _ hr
      · rw [hroles] at hr
        rcases List.mem_append.mp hr with hr | hr
        · exact Or.inl hr
        · rw [List.mem_singleton.mp hr]
          exact Or.inr ⟨⟨id, name⟩, by rw [husers]; simp, rfl⟩
    · exact h
  | releaseLock i =>
    rw [step]
    split
    · exact h.over i _
    · exact h
  | fail i =>
    rw [step]
    split
    · rename_i hi
      exact h.putOver (fun _ => h.holds i _ hi rfl) rfl rfl
    · rename_i hi
      exact h.putOver (fun _ => h.holds i _ hi rfl) rfl rfl
    · rename_i hi
      exact h.putOver (fun _ => h.holds i _ hi rfl) rfl rfl
    · rename_i hi
      exact h.putOver (fun _ => h.holds i _ hi rfl) rfl rfl
    · exact h.putOver (fun hg => by cases hg) rfl rfl
    · exact h
  -- with the connection the lock goes, and the transaction with it
  | lost i =>
    rw [step]
    split
    · exact h
    · exact h.over i _
  | bootstrapUser name =>
    have hgrows : Grows s.db (s.db.apply (.insertUser ⟨s.nextId, name⟩)) :=
      ⟨fun u hu => List.mem_append_left _ hu, fun r hr => hr, fun r hr => Or.inl hr⟩
    have hgrown := h.grow hgrows
    exact ⟨hgrown.holds, hgrown.told, hgrown.keyed, hgrown.someone⟩
  | bootstrapRole user =>
    rw [step]
    split_ifs with hguard
    · rw [Bool.and_eq_true] at hguard
      obtain ⟨u, hu, hid⟩ := List.any_eq_true.mp hguard.1
      refine h.grow ⟨fun u hu => hu, fun r hr => List.mem_append_left _ hr, fun r hr => ?_⟩
      rcases List.mem_append.mp hr with hr | hr
      · exact Or.inl hr
      · rw [List.mem_singleton.mp hr]
        exact Or.inr ⟨u, hu, of_decide_eq_true hid⟩
    · exact h

/-! ### Whole runs -/

/-- A state in which no request has begun. -/
structure Begins (s : System) : Prop where
  calls : ∀ i, s.calls i = none
  keyed : Keyed s.db
  someone : Someone s.db

theorem Begins.inv (h : Begins s) : Inv s where
  holds i p hp := by rw [h.calls i] at hp; cases hp
  told i p hp := by rw [h.calls i] at hp; cases hp
  keyed := h.keyed
  someone := h.someone

/-- **There is always a superadmin**: in every state that is reached, a user has the role. -/
theorem superadmin_of_run (h : Begins s) (es : List Event) :
    ∃ u ∈ (Run.run step s es).db.users, ⟨u.id, .superadmin⟩ ∈ (Run.run step s es).db.roles := by
  have hinv : Inv (Run.run step s es) := Run.invariant inv_step es h.inv
  obtain ⟨r, hr, hrole⟩ := hinv.someone
  obtain ⟨u, hu, hid⟩ := hinv.keyed r hr
  refine ⟨u, hu, ?_⟩
  rw [hid, ← hrole]
  exact hr

/-- The audit log, from a state on, tells the roles. -/
def Tells (db₀ db : Db) : Prop :=
  ∃ log, db.audits = db₀.audits ++ log ∧ db.roles = log.foldl replay db₀.roles

theorem Tells.append {db₀ db db' : Db} {log : List AuditRow} (h : Tells db₀ db)
    (haudits : db'.audits = db.audits ++ log) (hroles : db'.roles = log.foldl replay db.roles) :
    Tells db₀ db' := by
  obtain ⟨log₀, haudits₀, hroles₀⟩ := h
  refine ⟨log₀ ++ log, ?_, ?_⟩
  · rw [haudits, haudits₀, List.append_assoc]
  · rw [hroles, hroles₀, List.foldl_append]

/-- Whether an event is no bootstrap on the command line, which has no audit row. -/
def audited : Event → Bool
  | .bootstrapRole _ => false
  | _ => true

theorem unlock_db (s : System) (i : ℕ) : (s.unlock i).db = s.db := by
  unfold System.unlock
  split_ifs <;> rfl

/-- A step changes the roles with the audit rows that tell it. -/
theorem tells_step (db₀ : Db) (s : System) (e : Event) (h : Tells db₀ s.db)
    (haudited : audited e = true) : Tells db₀ (step s e).db := by
  have hsame : ∀ s' : System, s'.db = s.db → Tells db₀ s'.db := fun s' heq => by rwa [heq]
  cases e with
  | commit i =>
    rw [step]
    split
    · rename_i request hi
      obtain ⟨hroles, haudits⟩ := commit_changes s.db request
      exact h.append haudits hroles
    · rename_i id name role hi
      obtain ⟨-, hroles, haudits⟩ := commit_create s.db id name role
      exact h.append haudits hroles
    · exact h
  | bootstrapUser name => exact h
  -- the bootstrap is the one writer that leaves no audit row
  | bootstrapRole user => cases haudited
  | releaseLock i =>
    rw [step]
    split
    · exact hsame _ (unlock_db _ i)
    · exact h
  | lost i =>
    rw [step]
    split
    · exact h
    · exact hsame _ (unlock_db _ i)
  | find i =>
    rw [step]
    split
    · split_ifs <;> exact h
    · exact h
  | check i =>
    rw [step]
    split
    · split_ifs <;> exact h
    · exact h
  | fail i => rw [step]; split <;> exact h
  | call i actor body => rw [step]; split <;> exact h
  | getLock i => rw [step]; split <;> exact h
  | timeout i => rw [step]; split <;> exact h
  | write i => rw [step]; split <;> exact h

/-- **The audit log tells the roles**: whatever runs at the same time and whatever fails, the roles
of a state that is reached are the ones at the beginning, changed by the audit rows since. -/
theorem roles_eq_replay (s : System) (es : List Event) (h : ∀ e ∈ es, audited e = true) :
    Tells s.db (Run.run step s es).db := by
  have hmeets : ∀ (s : System) (es : List Event), (∀ e ∈ es, audited e = true) →
      Run.Meets step (fun _ e => audited e = true) s es := by
    intro s es
    induction es generalizing s with
    | nil => exact fun _ => trivial
    | cons e es ih =>
      exact fun h => ⟨h e List.mem_cons_self, ih _ fun f hf => h f (List.mem_cons_of_mem _ hf)⟩
  exact Run.invariant_of_meets (fun s' e hs he => tells_step s.db s' e hs he)
    ⟨[], (List.append_nil _).symm, rfl⟩ (hmeets s es h)

/-! ### Two superadmins who demote one another -/

/-- Two superadmins. -/
def pair : System where
  db := ⟨[⟨1, "ann"⟩, ⟨2, "bob"⟩], [⟨1, .superadmin⟩, ⟨2, .superadmin⟩], []⟩
  nextId := 3
  guard := none
  calls _ := none

/-- Each is demoted by the other one, and the second request asks when the first has committed. -/
def duel : List Event :=
  [.call 0 2 (.update 1 none (some "viewer")), .call 1 1 (.update 2 none (some "viewer")),
    .getLock 0, .find 0, .check 0, .getLock 1, .write 0, .commit 0, .releaseLock 0, .getLock 1,
    .find 1, .check 1, .write 1, .commit 1]

theorem pair_begins : Begins pair where
  calls _ := rfl
  keyed := by simp [Keyed, Present, pair]
  someone := ⟨⟨1, .superadmin⟩, by simp [pair], rfl⟩

theorem superadmin_of_duel :
    ∃ u ∈ (Run.run step pair duel).db.users,
      ⟨u.id, .superadmin⟩ ∈ (Run.run step pair duel).db.roles :=
  superadmin_of_run pair_begins duel

theorem roles_eq_replay_duel : Tells pair.db (Run.run step pair duel).db :=
  roles_eq_replay pair duel (by decide)

example : (Run.run step pair duel).db.roles = [⟨2, .superadmin⟩, ⟨1, .viewer⟩] := by
  decide +kernel

end Rerouter.Users
