import Mathlib.Data.List.Sort
import Mathlib.Logic.Function.Basic
import Rerouter.Lib.Run
import Rerouter.Lib.Text

/-!
# The host key of a device

A device is trusted on first use: the key of the first host that answers for it is pinned
(`persist_tofu`), and `check_server_key` refuses any other from then on. Nothing in the database
makes the first use one: two probes may both load a device that has no pin, reach two hosts and
both run their reads. The update of the pin has a `WHERE … IS NULL`, and who updates nothing reads
again and fails unless the pin is the key it saw.

A prepared change goes another way. `LockedDevices::acquire` takes no device without a pin, and
before the first write `verify_transport_identities` compares what was connected to with what
`transport_identities` recorded when the change was prepared.

| Step | Source |
|---|---|
| `load`, `connect` | `run_commands`: `load_device_ssh`, `run_on` |
| `pin`, `recheck` | `run_commands`: the two statements of `persist_tofu` |
| `identify` | one round of `transport_identities` |
| `lock`, `lockLoad`, `lockConnect` | `LockedDevices::acquire`, a device at a time |
| `verify` | `verify_transport_identities` |

Hosts answer with any key they like, operators move, add and delete devices, statements fail and
the process stops, all in any order. Every probe that succeeded, every identity recorded and every
session locked on a device still has the one key that is pinned, and what a verified set of
sessions is connected to is what was prepared (`Rerouter.HostKeys.one_key`).
-/

namespace Rerouter

namespace HostKeys

/-! ### Devices and sessions -/

/-- The columns of `devices` that say where a device is, with the mark of a deleted row, which no
statement finds. -/
structure DeviceRow where
  host : Text
  port : ℕ
  /-- `ssh_host_fingerprint`. -/
  fingerprint : Option Text := none
  deleted : Bool := false
deriving DecidableEq

/-- `DeviceSsh`, as `load_device_ssh` returns it. -/
structure DeviceSsh where
  device : ℕ
  host : Text
  port : ℕ
  expectedFingerprint : Option Text
deriving DecidableEq

/-- `DeviceTransportIdentity`. -/
structure DeviceTransportIdentity where
  host : Text
  port : ℕ
  pinnedHostFingerprint : Text
deriving DecidableEq

/-- An open session. -/
structure IosSession where
  host : Text
  port : ℕ
  fingerprint : Text
deriving DecidableEq

/-- `TofuHandler::check_server_key`: a pinned device accepts its key only, another any key. -/
def checkServerKey (expected : Option Text) (fp : Text) : Bool :=
  match expected with
  | some expected => expected = fp
  | none => true

/-- `IosSession::open`, where the host that answers has the key `fp`. -/
def openSession (dev : DeviceSsh) (fp : Text) : Option IosSession :=
  if checkServerKey dev.expectedFingerprint fp then some ⟨dev.host, dev.port, fp⟩ else none

/-- `verify_transport_identities`, on what is locked and what was recorded, both in the order of
their devices. -/
def verifyTransportIdentities (locked expected : List (ℕ × DeviceTransportIdentity)) : Bool :=
  locked.map Prod.fst = expected.map Prod.fst &&
    expected.all fun p => locked.lookup p.1 = some p.2

/-! ### The system -/

/-- How far a probe is. -/
inductive Probe where
  | loaded (dev : DeviceSsh)
  /-- Its commands have run. -/
  | ran (dev : DeviceSsh) (session : IosSession)
  /-- Its update found a pin. -/
  | raced (dev : DeviceSsh) (session : IosSession)

/-- A session of a lock set. -/
structure Held where
  device : ℕ
  session : IosSession
  identity : DeviceTransportIdentity

/-- `LockedDevices`, and the part of it that is not acquired yet. -/
structure LockSet where
  left : List ℕ
  loading : Option DeviceSsh := none
  held : List Held := []
  /-- The identities it was found to have. -/
  verified : Option (List (ℕ × DeviceTransportIdentity)) := none

/-- The devices, and what is under way. -/
structure State where
  devices : ℕ → Option DeviceRow := fun _ => none
  /-- The next `AUTO_INCREMENT` key. -/
  next : ℕ := 0
  probes : ℕ → Option Probe := fun _ => none
  /-- The devices that a probe was successful on, with the key it saw. -/
  trusted : List (ℕ × Text) := []
  /-- The identities recorded for a bundle. -/
  prepared : ℕ → List (ℕ × DeviceTransportIdentity) := fun _ => []
  locks : ℕ → Option LockSet := fun _ => none

/-- What may happen. -/
inductive Event where
  | add (host : Text) (port : ℕ)
  | edit (device : ℕ) (host : Text) (port : ℕ)
  | delete (device : ℕ)
  | load (i device : ℕ)
  | connect (i : ℕ) (fp : Text)
  | pin (i : ℕ) (fault : Bool)
  | recheck (i : ℕ) (fault : Bool)
  | identify (bundle device : ℕ)
  | lock (i : ℕ) (devices : List ℕ)
  | lockLoad (i : ℕ)
  | lockConnect (i : ℕ) (fp : Text) (granted : Bool)
  | verify (i bundle : ℕ)
  /-- A probe or a lock set ends where it is. -/
  | abandon (i : ℕ)
  | crash

namespace State

variable (s : State)

/-- The row that a statement finds. -/
def row (device : ℕ) : Option DeviceRow := (s.devices device).filter fun r => !r.deleted

/-- The pin of a device, whether it was deleted since or not. -/
def pinned (device : ℕ) : Option Text := (s.devices device).bind DeviceRow.fingerprint

/-- `UPDATE devices SET f WHERE id = …`. -/
def updateDevice (device : ℕ) (f : DeviceRow → DeviceRow) : State :=
  match s.row device with
  | some r => { s with devices := Function.update s.devices device (some (f r)) }
  | none => s

/-- `load_device_ssh`. -/
def loadDeviceSsh (device : ℕ) : Option DeviceSsh :=
  (s.row device).map fun r => ⟨device, r.host, r.port, r.fingerprint⟩

def setProbe (i : ℕ) (p : Option Probe) : State := { s with probes := Function.update s.probes i p }

def setLock (i : ℕ) (l : Option LockSet) : State := { s with locks := Function.update s.locks i l }

/-- A probe is successful. -/
def trust (i device : ℕ) (fp : Text) : State :=
  { s.setProbe i none with trusted := (device, fp) :: s.trusted }

/-- The first statement of `persist_tofu`: `UPDATE … WHERE ssh_host_fingerprint IS NULL`, where the
device was loaded without a pin. -/
def persistTofu (i : ℕ) (dev : DeviceSsh) (session : IosSession) : State :=
  if dev.expectedFingerprint.isSome then s.trust i dev.device session.fingerprint
  else if (s.row dev.device).any fun r => r.fingerprint.isNone then
    (s.updateDevice dev.device fun r => { r with fingerprint := some session.fingerprint }).trust i
      dev.device session.fingerprint
  else s.setProbe i (some (.raced dev session))

/-- The second: the pin of who won. -/
def recheckTofu (i : ℕ) (dev : DeviceSsh) (session : IosSession) : State :=
  if ((s.row dev.device).bind DeviceRow.fingerprint) = some session.fingerprint then
    s.trust i dev.device session.fingerprint
  else s.setProbe i none

/-- One round of `transport_identities`: a device without a pin fails it. -/
def identify (bundle device : ℕ) : State :=
  match s.row device with
  | some ⟨host, port, some fp, _⟩ =>
    { s with
      prepared := Function.update s.prepared bundle
        (s.prepared bundle ++ [(device, ⟨host, port, fp⟩)]) }
  | _ => s

/-- `LockedDevices::acquire` loads the next device, and gives up where it has no pin. -/
def lockLoad (i : ℕ) (l : LockSet) : State :=
  match l.left with
  | [] => s
  | device :: left =>
    match s.loadDeviceSsh device with
    | some dev =>
      if dev.expectedFingerprint.isSome then s.setLock i (some { l with left, loading := some dev })
      else s.setLock i none
    | none => s.setLock i none

/-- It opens a session and locks its configuration. `persist_tofu` has nothing to do for it. -/
def lockConnect (i : ℕ) (l : LockSet) (fp : Text) (granted : Bool) : State :=
  match l.loading with
  | some dev =>
    match dev.expectedFingerprint, openSession dev fp with
    | some pin, some session =>
      if granted then
        s.setLock i (some { l with
          loading := none
          held := l.held ++ [⟨dev.device, session, ⟨dev.host, dev.port, pin⟩⟩] })
      else s.setLock i none
    | _, _ => s.setLock i none
  | none => s

/-- The identities of a lock set. -/
def lockIdentities (l : LockSet) : List (ℕ × DeviceTransportIdentity) :=
  l.held.map fun h => (h.device, h.identity)

/-- The lock set is let go unless it is what was prepared. -/
def verify (i : ℕ) (l : LockSet) (bundle : ℕ) : State :=
  if l.left = [] ∧ l.loading = none then
    if verifyTransportIdentities (lockIdentities l) (s.prepared bundle) then
      s.setLock i (some { l with verified := some (s.prepared bundle) })
    else s.setLock i none
  else s

end State

/-- One event. An event that is not enabled leaves the state as it is. -/
def step (s : State) : Event → State
  | .add host port =>
    { s with
      devices := Function.update s.devices s.next (some ⟨host, port, none, false⟩)
      next := s.next + 1 }
  | .edit device host port => s.updateDevice device fun r => { r with host, port }
  | .delete device => s.updateDevice device fun r => { r with deleted := true }
  | .load i device =>
    if (s.probes i).isNone then s.setProbe i ((s.loadDeviceSsh device).map .loaded) else s
  | .connect i fp =>
    match s.probes i with
    | some (.loaded dev) => s.setProbe i ((openSession dev fp).map (.ran dev))
    | _ => s
  | .pin i fault =>
    match s.probes i with
    | some (.ran dev session) => if fault then s.setProbe i none else s.persistTofu i dev session
    | _ => s
  | .recheck i fault =>
    match s.probes i with
    | some (.raced dev session) =>
      if fault then s.setProbe i none else s.recheckTofu i dev session
    | _ => s
  | .identify bundle device =>
    if ∀ p ∈ s.prepared bundle, p.1 < device then s.identify bundle device else s
  | .lock i devices =>
    if (s.locks i).isNone ∧ devices ≠ [] then
      s.setLock i (some { left := devices.dedup.insertionSort (· ≤ ·) })
    else s
  | .lockLoad i =>
    match s.locks i with
    | some l => if l.loading.isNone then s.lockLoad i l else s
    | none => s
  | .lockConnect i fp granted =>
    match s.locks i with
    | some l => s.lockConnect i l fp granted
    | none => s
  | .verify i bundle =>
    match s.locks i with
    | some l => s.verify i l bundle
    | none => s
  | .abandon i => (s.setProbe i none).setLock i none
  | .crash => { s with probes := fun _ => none, locks := fun _ => none }

/-! ### The invariant -/

/-- Pins stay. -/
def Keeps (s s' : State) : Prop := ∀ d k, s.pinned d = some k → s'.pinned d = some k

/-- A device that was loaded with a pin has it still. -/
def DevOk (s : State) (dev : DeviceSsh) : Prop :=
  ∀ k, dev.expectedFingerprint = some k → s.pinned dev.device = some k

/-- What a probe saw is what it expected. -/
def ProbeOk (s : State) : Probe → Prop
  | .loaded dev => DevOk s dev
  | .ran dev session =>
    DevOk s dev ∧ ∀ k, dev.expectedFingerprint = some k → session.fingerprint = k
  | .raced _ _ => True

/-- A session is with the host of its identity, whose key is pinned. -/
structure HeldOk (s : State) (h : Held) : Prop where
  session : h.session = ⟨h.identity.host, h.identity.port, h.identity.pinnedHostFingerprint⟩
  pinned : s.pinned h.device = some h.identity.pinnedHostFingerprint

structure LockOk (s : State) (l : LockSet) : Prop where
  loading : ∀ dev, l.loading = some dev → DevOk s dev
  held : ∀ h ∈ l.held, HeldOk s h
  verified : ∀ m, l.verified = some m → l.left = [] ∧ l.loading = none ∧
    ∀ p ∈ m, ∃ h ∈ l.held, h.device = p.1 ∧ h.identity = p.2

/-- **The invariant**: whatever was found to be the key of a device is pinned. -/
structure Inv (s : State) : Prop where
  fresh : ∀ d, s.next ≤ d → s.devices d = none
  probe : ∀ i p, s.probes i = some p → ProbeOk s p
  trusted : ∀ p ∈ s.trusted, s.pinned p.1 = some p.2
  prepared : ∀ b, ∀ p ∈ s.prepared b, s.pinned p.1 = some p.2.pinnedHostFingerprint
  lock : ∀ i l, s.locks i = some l → LockOk s l

section Mono

variable {s s' : State} (hk : Keeps s s')

include hk

theorem DevOk.mono {dev : DeviceSsh} (h : DevOk s dev) : DevOk s' dev :=
  fun k hdev => hk _ _ (h k hdev)

theorem ProbeOk.mono {p : Probe} (h : ProbeOk s p) : ProbeOk s' p := by
  cases p with
  | loaded dev => exact DevOk.mono hk h
  | ran dev session => exact ⟨DevOk.mono hk h.1, h.2⟩
  | raced dev session => exact h

theorem LockOk.mono {l : LockSet} (h : LockOk s l) : LockOk s' l where
  loading dev hdev := (h.loading dev hdev).mono hk
  held a ha := ⟨(h.held a ha).session, hk _ _ (h.held a ha).pinned⟩
  verified := h.verified

/-- The rows change, and nothing else. -/
theorem Inv.rows (h : Inv s) (hfresh : ∀ d, s'.next ≤ d → s'.devices d = none)
    (hprobes : s'.probes = s.probes) (htrusted : s'.trusted = s.trusted)
    (hprepared : s'.prepared = s.prepared) (hlocks : s'.locks = s.locks) : Inv s' where
  fresh := hfresh
  probe i p hp := (h.probe i p (hprobes ▸ hp)).mono hk
  trusted p hp := hk _ _ (h.trusted p (htrusted ▸ hp))
  prepared b p hp := hk _ _ (h.prepared b p (hprepared ▸ hp))
  lock i l hl := (h.lock i l (hlocks ▸ hl)).mono hk

end Mono

variable {s : State} {i device bundle : ℕ} {dev : DeviceSsh} {session : IosSession} {fp : Text}

theorem keeps_of_devices {s' : State} (h : s'.devices = s.devices) : Keeps s s' := by
  intro d k hpin
  rwa [State.pinned, h]

theorem row_eq_some {r : DeviceRow} (h : s.row device = some r) : s.devices device = some r :=
  (Option.filter_eq_some_iff.mp h).1

theorem pinned_of_row {r : DeviceRow} (h : s.row device = some r) :
    s.pinned device = r.fingerprint := by
  rw [State.pinned, row_eq_some h, Option.bind_some]

/-- A device that is loaded has the pin it is loaded with. -/
theorem devOk_of_load (h : s.loadDeviceSsh device = some dev) : DevOk s dev := by
  obtain ⟨r, hr, rfl⟩ := Option.map_eq_some_iff.mp h
  exact fun k hk => (pinned_of_row hr).trans hk

theorem fingerprint_of_open (h : openSession dev fp = some session) :
    session = ⟨dev.host, dev.port, fp⟩ ∧
      ∀ k, dev.expectedFingerprint = some k → session.fingerprint = k := by
  unfold openSession checkServerKey at h
  split_ifs at h with hkey
  obtain rfl := Option.some.inj h
  refine ⟨rfl, fun k hk => ?_⟩
  rw [hk] at hkey
  exact (of_decide_eq_true hkey).symm

/-! ### The statements -/

/-- A row is updated, and its pin stays where it has one. -/
theorem keeps_updateDevice {f : DeviceRow → DeviceRow}
    (hf : ∀ r, s.row device = some r → ∀ k, r.fingerprint = some k → (f r).fingerprint = some k) :
    Keeps s (s.updateDevice device f) := by
  intro d k hpin
  unfold State.updateDevice
  split
  next r hr =>
    dsimp only [State.pinned]
    rcases eq_or_ne d device with rfl | hne
    · rw [Function.update_self]
      exact hf r hr k ((pinned_of_row hr).symm.trans hpin)
    · rw [Function.update_of_ne hne]
      exact hpin
  · exact hpin

theorem Inv.updateDevice (h : Inv s) {f : DeviceRow → DeviceRow}
    (hf : ∀ r, s.row device = some r → ∀ k, r.fingerprint = some k → (f r).fingerprint = some k) :
    Inv (s.updateDevice device f) := by
  have hkeeps := keeps_updateDevice hf
  unfold State.updateDevice at hkeeps ⊢
  split
  next r hr =>
    rw [hr] at hkeeps
    refine h.rows hkeeps (fun d hd => ?_) rfl rfl rfl rfl
    have hne : d ≠ device := by
      rintro rfl
      cases (h.fresh d hd).symm.trans (row_eq_some hr)
    exact (Function.update_of_ne hne _ _).trans (h.fresh d hd)
  · exact h

theorem Inv.setProbe (h : Inv s) {p : Option Probe} (hp : ∀ q, p = some q → ProbeOk s q) :
    Inv (s.setProbe i p) := by
  have hkeeps : Keeps s (s.setProbe i p) := keeps_of_devices rfl
  refine ⟨h.fresh, fun j q hq => ?_, h.trusted, h.prepared,
    fun j l hl => (h.lock j l hl).mono hkeeps⟩
  dsimp only [State.setProbe] at hq
  rcases eq_or_ne j i with rfl | hne
  · rw [Function.update_self] at hq
    exact (hp q hq).mono hkeeps
  · rw [Function.update_of_ne hne] at hq
    exact (h.probe j q hq).mono hkeeps

theorem Inv.setLock (h : Inv s) {l : Option LockSet} (hl : ∀ m, l = some m → LockOk s m) :
    Inv (s.setLock i l) := by
  have hkeeps : Keeps s (s.setLock i l) := keeps_of_devices rfl
  refine ⟨h.fresh, fun j q hq => (h.probe j q hq).mono hkeeps, h.trusted, h.prepared,
    fun j m hm => ?_⟩
  dsimp only [State.setLock] at hm
  rcases eq_or_ne j i with rfl | hne
  · rw [Function.update_self] at hm
    exact (hl m hm).mono hkeeps
  · rw [Function.update_of_ne hne] at hm
    exact (h.lock j m hm).mono hkeeps

theorem Inv.trust (h : Inv s) (hpin : s.pinned device = some fp) : Inv (s.trust i device fp) := by
  have hdone : Inv (s.setProbe i none) := h.setProbe fun q hq => by cases hq
  have hkeeps : Keeps (s.setProbe i none) (s.trust i device fp) := keeps_of_devices rfl
  refine ⟨hdone.fresh, fun j q hq => (hdone.probe j q hq).mono hkeeps, fun p hp => ?_,
    hdone.prepared, fun j l hl => (hdone.lock j l hl).mono hkeeps⟩
  rcases List.mem_cons.mp hp with rfl | hp
  · exact hpin
  · exact h.trusted p hp

/-- **The first of two probes pins.** -/
theorem Inv.persistTofu (h : Inv s) (hran : ProbeOk s (.ran dev session)) :
    Inv (s.persistTofu i dev session) := by
  unfold State.persistTofu
  split_ifs with hexpected hnull
  · obtain ⟨k, hk⟩ := Option.isSome_iff_exists.mp hexpected
    refine h.trust ?_
    rw [hran.2 k hk]
    exact hran.1 k hk
  · obtain ⟨r, hr, hnone⟩ := (Option.any_eq_true _ _).mp hnull
    refine (h.updateDevice fun r' hr' k hk => ?_).trust ?_
    · obtain rfl := Option.some.inj (hr.symm.trans hr')
      rw [hk] at hnone
      cases hnone
    · simp only [State.pinned, State.updateDevice, hr, Function.update_self, Option.bind_some]
  · exact h.setProbe fun q hq => by
      obtain rfl := Option.some.inj hq
      trivial

/-- **The other is trusted if it saw the same key.** -/
theorem Inv.recheckTofu (h : Inv s) : Inv (s.recheckTofu i dev session) := by
  unfold State.recheckTofu
  split_ifs with hsame
  · obtain ⟨r, hr, hfp⟩ := Option.bind_eq_some_iff.mp hsame
    exact h.trust ((pinned_of_row hr).trans hfp)
  · exact h.setProbe fun q hq => by cases hq

theorem Inv.identify (h : Inv s) : Inv (s.identify bundle device) := by
  unfold State.identify
  split
  next host port fp deleted hr =>
    have hkeeps : Keeps s { s with
        prepared := Function.update s.prepared bundle
          (s.prepared bundle ++ [(device, ⟨host, port, fp⟩)]) } := keeps_of_devices rfl
    refine ⟨h.fresh, fun j q hq => (h.probe j q hq).mono hkeeps, h.trusted, fun b p hp => ?_,
      fun j l hl => (h.lock j l hl).mono hkeeps⟩
    dsimp only at hp
    rcases eq_or_ne b bundle with rfl | hne
    · rw [Function.update_self, List.mem_append, List.mem_singleton] at hp
      rcases hp with hp | rfl
      · exact h.prepared b p hp
      · exact pinned_of_row hr
    · rw [Function.update_of_ne hne] at hp
      exact h.prepared b p hp
  · exact h

theorem Inv.lockLoad (h : Inv s) {l : LockSet} (hl : s.locks i = some l) :
    Inv (s.lockLoad i l) := by
  have hok := h.lock i l hl
  unfold State.lockLoad
  split
  · exact h
  next device left hleft =>
    split
    next dev hdev =>
      split_ifs
      · refine h.setLock fun m hm => ?_
        obtain rfl := Option.some.inj hm
        refine ⟨fun dev' hdev' => ?_, hok.held, fun m hm => ?_⟩
        · obtain rfl := Option.some.inj hdev'
          exact devOk_of_load hdev
        · cases hleft.symm.trans (hok.verified m hm).1
      · exact h.setLock fun m hm => by cases hm
    · exact h.setLock fun m hm => by cases hm

theorem Inv.lockConnect (h : Inv s) {l : LockSet} (hl : s.locks i = some l) (granted : Bool) :
    Inv (s.lockConnect i l fp granted) := by
  have hok := h.lock i l hl
  unfold State.lockConnect
  split
  next dev hdev =>
    split
    next pin session hpin hsession =>
      split_ifs
      · refine h.setLock fun m hm => ?_
        obtain rfl := Option.some.inj hm
        refine ⟨(fun dev' hdev' => by cases hdev'), fun a ha => ?_, fun m hm => ?_⟩
        · rcases List.mem_append.mp ha with ha | ha
          · exact hok.held a ha
          · obtain rfl := List.mem_singleton.mp ha
            obtain ⟨rfl, hkey⟩ := fingerprint_of_open hsession
            obtain rfl : fp = pin := hkey pin hpin
            exact ⟨rfl, hok.loading dev hdev fp hpin⟩
        · cases hdev.symm.trans (hok.verified m hm).2.1
      · exact h.setLock fun m hm => by cases hm
    · exact h.setLock fun m hm => by cases hm
  · exact h

theorem verifyTransportIdentities_iff {locked expected : List (ℕ × DeviceTransportIdentity)} :
    verifyTransportIdentities locked expected = true ↔
      locked.map Prod.fst = expected.map Prod.fst ∧
        ∀ p ∈ expected, locked.lookup p.1 = some p.2 := by
  rw [verifyTransportIdentities, Bool.and_eq_true, decide_eq_true_eq, List.all_eq_true]
  simp only [decide_eq_true_eq]

theorem Inv.verify (h : Inv s) {l : LockSet} (hl : s.locks i = some l) :
    Inv (s.verify i l bundle) := by
  have hok := h.lock i l hl
  unfold State.verify
  split_ifs with hdone hsame
  · refine h.setLock fun m hm => ?_
    obtain rfl := Option.some.inj hm
    refine ⟨hok.loading, hok.held, fun m hm => ⟨hdone.1, hdone.2, fun p hp => ?_⟩⟩
    obtain rfl := Option.some.inj hm
    have hfound := (verifyTransportIdentities_iff.mp hsame).2 p hp
    obtain ⟨front, back, hsplit, -⟩ := List.lookup_eq_some_iff.mp hfound
    have hmem : p ∈ State.lockIdentities l := hsplit ▸ List.mem_append_right _ List.mem_cons_self
    obtain ⟨a, ha, rfl⟩ := List.mem_map.mp hmem
    exact ⟨a, ha, rfl, rfl⟩
  · exact h.setLock fun m hm => by cases hm
  · exact h

theorem Inv.init : Inv {} where
  fresh d hd := rfl
  probe i p hp := by cases hp
  trusted p hp := by cases hp
  prepared b p hp := by cases hp
  lock i l hl := by cases hl

/-- A new device has no pin, and is no device that has one. -/
theorem Inv.add (h : Inv s) (host : Text) (port : ℕ) :
    Keeps s (step s (.add host port)) ∧ Inv (step s (.add host port)) := by
  have hkeeps : Keeps s (step s (.add host port)) := by
    intro d k hpin
    have hne : d ≠ s.next := by
      rintro rfl
      rw [State.pinned, h.fresh s.next le_rfl] at hpin
      cases hpin
    dsimp only [State.pinned, step]
    rw [Function.update_of_ne hne]
    exact hpin
  refine ⟨hkeeps, h.rows hkeeps (fun d hd => ?_) rfl rfl rfl rfl⟩
  have hlt : s.next + 1 ≤ d := hd
  have hne : d ≠ s.next := by omega
  exact (Function.update_of_ne hne _ _).trans (h.fresh d (by omega))

/-- **Every step keeps the invariant.** -/
theorem Inv.step (h : Inv s) (e : Event) : Inv (step s e) := by
  cases e with
  | add host port => exact (h.add host port).2
  -- an edit and a delete keep the pin of every row
  | edit device host port => exact h.updateDevice fun r _ k hk => hk
  | delete device => exact h.updateDevice fun r _ k hk => hk
  | load i device =>
    simp only [HostKeys.step]
    split_ifs
    · refine h.setProbe fun q hq => ?_
      obtain ⟨dev, hdev, rfl⟩ := Option.map_eq_some_iff.mp hq
      exact devOk_of_load hdev
    · exact h
  | connect i fp =>
    simp only [HostKeys.step]
    split
    next dev hprobe =>
      refine h.setProbe fun q hq => ?_
      obtain ⟨session, hsession, rfl⟩ := Option.map_eq_some_iff.mp hq
      exact ⟨h.probe i _ hprobe, (fingerprint_of_open hsession).2⟩
    · exact h
  | pin i fault =>
    simp only [HostKeys.step]
    split
    next dev session hprobe =>
      split_ifs
      · exact h.setProbe fun q hq => by cases hq
      · exact h.persistTofu (h.probe i _ hprobe)
    · exact h
  | recheck i fault =>
    simp only [HostKeys.step]
    split
    next dev session hprobe =>
      split_ifs
      · exact h.setProbe fun q hq => by cases hq
      · exact h.recheckTofu
    · exact h
  | identify bundle device =>
    simp only [HostKeys.step]
    split_ifs
    · exact h.identify
    · exact h
  -- a critical section starts with no device read and no session open
  | lock i devices =>
    simp only [HostKeys.step]
    split_ifs
    · refine h.setLock fun m hm => ?_
      obtain rfl := Option.some.inj hm
      exact ⟨fun dev hdev => (by cases hdev), fun a ha => (by cases ha), fun m hm => (by cases hm)⟩
    · exact h
  | lockLoad i =>
    simp only [HostKeys.step]
    split
    next l hl =>
      split_ifs
      · exact h.lockLoad hl
      · exact h
    · exact h
  | lockConnect i fp granted =>
    simp only [HostKeys.step]
    split
    next l hl => exact h.lockConnect hl granted
    · exact h
  | verify i bundle =>
    simp only [HostKeys.step]
    split
    next l hl => exact h.verify hl
    · exact h
  -- what a probe and a section held is dropped
  | abandon i =>
    have hprobe : Inv (s.setProbe i none) := h.setProbe fun q hq => by cases hq
    exact hprobe.setLock fun m hm => by cases hm
  | crash =>
    exact ⟨h.fresh, fun i p hp => (by cases hp), h.trusted, h.prepared, fun i l hl => (by cases hl)⟩

/-- **No step takes a pin back.** -/
theorem Inv.keeps (h : Inv s) (e : Event) : Keeps s (HostKeys.step s e) := by
  cases e with
  | add host port => exact (h.add host port).1
  | edit device host port => exact keeps_updateDevice fun r _ k hk => hk
  | delete device => exact keeps_updateDevice fun r _ k hk => hk
  -- the one event that writes a pin does so only where the column is null
  | pin i fault =>
    simp only [HostKeys.step]
    split
    next dev session hprobe =>
      split_ifs
      · exact keeps_of_devices rfl
      · unfold State.persistTofu
        split_ifs with hexpected hnull
        · exact keeps_of_devices rfl
        · obtain ⟨r, hr, hnone⟩ := (Option.any_eq_true _ _).mp hnull
          refine keeps_updateDevice fun r' hr' k hk => ?_
          obtain rfl := Option.some.inj (hr.symm.trans hr')
          rw [hk] at hnone
          cases hnone
        · exact keeps_of_devices rfl
    · exact keeps_of_devices rfl
  | recheck i fault =>
    simp only [HostKeys.step, State.recheckTofu]
    split
    · split_ifs <;> exact keeps_of_devices rfl
    · exact keeps_of_devices rfl
  | lockLoad i =>
    simp only [HostKeys.step, State.lockLoad]
    split
    · split_ifs
      · split
        · exact keeps_of_devices rfl
        · split
          · split_ifs <;> exact keeps_of_devices rfl
          · exact keeps_of_devices rfl
      · exact keeps_of_devices rfl
    · exact keeps_of_devices rfl
  | lockConnect i fp granted =>
    simp only [HostKeys.step, State.lockConnect]
    split
    · split
      · split
        · split_ifs <;> exact keeps_of_devices rfl
        · exact keeps_of_devices rfl
      · exact keeps_of_devices rfl
    · exact keeps_of_devices rfl
  | verify i bundle =>
    simp only [HostKeys.step, State.verify]
    split
    · split_ifs <;> exact keeps_of_devices rfl
    · exact keeps_of_devices rfl
  | identify bundle device =>
    simp only [HostKeys.step, State.identify]
    split_ifs
    · split <;> exact keeps_of_devices rfl
    · exact keeps_of_devices rfl
  | load i device =>
    simp only [HostKeys.step]
    split_ifs <;> exact keeps_of_devices rfl
  | connect i fp =>
    simp only [HostKeys.step]
    split <;> exact keeps_of_devices rfl
  | lock i devices =>
    simp only [HostKeys.step]
    split_ifs <;> exact keeps_of_devices rfl
  | abandon i => exact keeps_of_devices rfl
  | crash => exact keeps_of_devices rfl

/-- A run takes no pin back. -/
theorem Inv.keeps_run (h : Inv s) (es : List Event) : Keeps s (Run.run HostKeys.step s es) := by
  induction es generalizing s with
  | nil => exact keeps_of_devices rfl
  | cons e es ih => exact fun d k hpin => ih (h.step e) d k (h.keeps e d k hpin)

/-- Something found `k` to be the key of a device. -/
inductive Names (s : State) (device : ℕ) (k : Text) : Prop where
  /-- A probe that was successful. -/
  | probe (h : (device, k) ∈ s.trusted)
  /-- A recorded identity. -/
  | prepared (bundle : ℕ) (identity : DeviceTransportIdentity)
      (h : (device, identity) ∈ s.prepared bundle) (hk : identity.pinnedHostFingerprint = k)
  /-- A session of a lock set. -/
  | held (i : ℕ) (l : LockSet) (a : Held) (hl : s.locks i = some l) (ha : a ∈ l.held)
      (hdevice : a.device = device) (hk : a.session.fingerprint = k)

theorem Inv.pinned_of_names (h : Inv s) {k : Text} (hn : Names s device k) :
    s.pinned device = some k := by
  cases hn with
  | probe hmem => exact h.trusted _ hmem
  | prepared bundle identity hmem hk => exact hk ▸ h.prepared bundle _ hmem
  | held i l a hl ha hdevice hk =>
    have hok := (h.lock i l hl).held a ha
    rw [← hdevice, ← hk, hok.session]
    exact hok.pinned

/-- **One key a device.** In every run, with any number of probes on their first use at once: all
that ever finds out the key of a device, at whatever time, finds the same one; and a lock set that
was verified is connected, for each device that was prepared, to the host and port that were
recorded, where a host with the recorded key answered. -/
theorem one_key (es es' : List Event) :
    let s := Run.run step {} es
    let s' := Run.run step {} (es ++ es')
    (∀ device k k', Names s device k → Names s' device k' → k = k') ∧
      ∀ i l m, s.locks i = some l → l.verified = some m → ∀ p ∈ m, ∃ a ∈ l.held,
        a.device = p.1 ∧ a.session = ⟨p.2.host, p.2.port, p.2.pinnedHostFingerprint⟩ := by
  intro s s'
  have h : Inv s := Run.invariant (fun _ e hinv => hinv.step e) es .init
  have h' : Inv s' := Run.invariant (fun _ e hinv => hinv.step e) (es ++ es') .init
  refine ⟨fun device k k' hn hn' => ?_, fun i l m hl hm p hp => ?_⟩
  · have hlater : s'.pinned device = some k := by
      rw [show s' = Run.run step s es' from Run.run_append _ _ _]
      exact h.keeps_run es' device k (h.pinned_of_names hn)
    exact Option.some.inj (hlater.symm.trans (h'.pinned_of_names hn'))
  · have hok := h.lock i l hl
    obtain ⟨a, ha, hdevice, hidentity⟩ := (hok.verified m hm).2.2 p hp
    exact ⟨a, ha, hdevice, hidentity ▸ (hok.held a ha).session⟩

end HostKeys

end Rerouter
