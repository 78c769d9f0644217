import Mathlib.Logic.Function.Basic
import Rerouter.Db
import Rerouter.Lib.Text

/-!
# The settings that arm the controller

Three rows of `system_settings` decide whether the controller may act on its own: its operating
mode, whether automatic actions are enabled, and the maintenance lock. They are texts, and the
source has four readers for them, which do not read them alike.

| Reader | A text that it does not know | A statement that fails |
|---|---|---|
| `operating_mode` | the configuration | observe mode |
| `bool_setting` | the default of the caller | the lock is on, all else is off |
| `settings_json` | off, and for the mode the configuration | an error |
| `reserve_slot` | off, but `1`, `yes` and `on` are known | an error |

The only writer is `PUT /api/settings` (`Rerouter.Policy.update`), and it writes no text that they
could disagree on (`Rerouter.Policy.WellFormed`, `Rerouter.Policy.settingsJson_eq`). What the page
shows is therefore what the gates read. It is also what the writer decides by whether a request
*arms* the controller, and has to come with a password and a code: whatever the settings were, it
takes both to arm it (`Rerouter.Policy.steppedUp_of_armed`).
-/

namespace Rerouter

namespace Policy

/-! ### The readers -/

/-- `OperatingMode`. -/
inductive OperatingMode where
  | observe | enforce
deriving DecidableEq

/-- The settings that the gates read. -/
inductive SettingKey where
  | operatingMode | automaticActionsEnabled | globalMaintenanceLock
deriving DecidableEq

/-- Their rows of `system_settings`. -/
abbrev Settings := SettingKey → Option Text

/-- What the configuration says of a setting that is not stored. -/
structure SafetyDefaults where
  operatingMode : OperatingMode := .observe
  automaticActionsEnabled : Bool := false

/-- The mode of a text, or that of the configuration. -/
def SafetyDefaults.mode (cfg : SafetyDefaults) (stored : Option Text) : OperatingMode :=
  if stored = some "enforce" then .enforce
  else if stored = some "observe" then .observe
  else cfg.operatingMode

/-- `operating_mode`, where the statement may fail. -/
def operatingMode (cfg : SafetyDefaults) (fault : Bool) (settings : Settings) : OperatingMode :=
  if fault then .observe else cfg.mode (settings .operatingMode)

/-- `bool_setting`, where the statement may fail. -/
def boolSetting (fault : Bool) (settings : Settings) (key : SettingKey) (default : Bool) : Bool :=
  if fault then decide (key = .globalMaintenanceLock)
  else if settings key = some "true" then true
  else if settings key = some "false" then false
  else default

/-- The maintenance lock, as `reserve_slot` reads it. -/
def slotMaintenance (settings : Settings) : Bool :=
  (settings .globalMaintenanceLock).any fun v =>
    decide (v ∈ (["true", "1", "yes", "on"] : List Text))

/-- `SystemSettings`. -/
structure SystemSettings where
  operatingMode : OperatingMode
  automaticActionsEnabled : Bool
  globalLock : Bool
deriving DecidableEq

/-- `settings_json`. -/
def settingsJson (cfg : SafetyDefaults) (map : Settings) : SystemSettings where
  operatingMode := cfg.mode (map .operatingMode)
  automaticActionsEnabled :=
    match map .automaticActionsEnabled with
    | some v => decide (v = ("true" : Text))
    | none => cfg.automaticActionsEnabled
  globalLock := (map .globalMaintenanceLock).any fun v => decide (v = ("true" : Text))

/-! ### The writer -/

/-- A value of the body of a request. -/
inductive JsonValue where
  | string (s : Text)
  | bool (b : Bool)
  | other

/-- `Value::as_str`. -/
def JsonValue.asStr : JsonValue → Option Text
  | string s => some s
  | _ => none

/-- `Value::as_bool`. -/
def JsonValue.asBool : JsonValue → Option Bool
  | bool b => some b
  | _ => none

/-- The body of `PUT /api/settings`. A password or a code that is no text is the empty one. -/
structure SettingsBody where
  operatingMode : Option JsonValue := none
  automaticActionsEnabled : Option JsonValue := none
  globalLock : Option JsonValue := none
  password : Text := []
  totpCode : Text := []

/-- `SettingChange`, without what the alert and the audit say of it. -/
structure SettingChange where
  key : SettingKey
  after : Text
deriving DecidableEq

/-- A response that is an error. -/
structure ErrorResponse where
  status : ℕ
  message : Text
deriving DecidableEq

/-- `StepUpOutcome`. -/
inductive StepUpOutcome where
  | verified | rejected | totpReplayed
deriving DecidableEq

/-- What the database says of who sent a request. -/
structure Session where
  /-- `rbac::is_admin`, or that it could not be told. -/
  admin : Option Bool
  /-- `ip_throttled`. -/
  throttled : Bool
  /-- `verify_step_up`, or that it could not be told. -/
  stepUp : Option StepUpOutcome
deriving DecidableEq

/-- He is an administrator, and has proved it again. -/
def Session.SteppedUp (session : Session) : Prop :=
  session.admin = some true ∧ session.throttled = false ∧ session.stepUp = some .verified

/-- `arming_enforce || arming_auto`. -/
def arming (before : SystemSettings) (body : SettingsBody) : Bool :=
  (decide (body.operatingMode.bind JsonValue.asStr = some "enforce") &&
      decide (before.operatingMode ≠ .enforce)) ||
    (decide (body.automaticActionsEnabled.bind JsonValue.asBool = some true) &&
      !before.automaticActionsEnabled)

/-- The step-up authentication of a change that arms. -/
def reauthenticate (session : Session) (body : SettingsBody) : Except ErrorResponse Unit :=
  if session.throttled then .error ⟨429, "too_many_attempts"⟩
  else if body.password = [] ∨ body.totpCode = [] then .error ⟨403, "reauth_required"⟩
  else
    match session.stepUp with
    | some .verified => .ok ()
    | some .rejected => .error ⟨403, "reauth_failed"⟩
    | some .totpReplayed => .error ⟨403, "reauth_totp_reused"⟩
    | none => .error ⟨500, "authz check failed"⟩

/-- The change of a switch, if it is one: `true` and `false` are all that is written. -/
def switchChange (key : SettingKey) (was : Bool) (message : Text) :
    Option JsonValue → Except ErrorResponse (List SettingChange)
  | none => .ok []
  | some raw =>
    match raw.asBool with
    | none => .error ⟨422, message⟩
    | some b => .ok (if was ≠ b then [⟨key, if b then "true" else "false"⟩] else [])

/-- The change of the mode. -/
def modeChange (was : OperatingMode) :
    Option JsonValue → Except ErrorResponse (List SettingChange)
  | none => .ok []
  | some raw =>
    match raw.asStr with
    | none => .error ⟨422, "operating_mode must be a string"⟩
    | some v =>
      if v = "observe" then
        .ok (if was ≠ .observe then [⟨.operatingMode, "observe"⟩] else [])
      else if v = "enforce" then
        .ok (if was ≠ .enforce then [⟨.operatingMode, "enforce"⟩] else [])
      else .error ⟨422, "operating_mode must be observe or enforce"⟩

/-- The whole patch is validated before any of it is written. -/
def changes (before : SystemSettings) (body : SettingsBody) :
    Except ErrorResponse (List SettingChange) := do
  let mode ← modeChange before.operatingMode body.operatingMode
  let automatic ← switchChange .automaticActionsEnabled before.automaticActionsEnabled
    "automatic_actions_enabled must be boolean" body.automaticActionsEnabled
  let lock ← switchChange .globalMaintenanceLock before.globalLock
    "global_lock must be boolean" body.globalLock
  return mode ++ (automatic ++ lock)

/-- `update`, until it has something to write: what it does with the settings it has read. -/
def update (cfg : SafetyDefaults) (before : Settings) (session : Session) (body : SettingsBody) :
    Except ErrorResponse (List SettingChange) :=
  match session.admin with
  | some false => .error ⟨403, "admin role required"⟩
  | none => .error ⟨500, "authz check failed"⟩
  | some true => do
    if arming (settingsJson cfg before) body then reauthenticate session body
    changes (settingsJson cfg before) body

/-- The rows that a transaction of `update` writes. -/
def write (settings : Settings) (cs : List SettingChange) : Settings :=
  cs.foldl (fun s c => Function.update s c.key (some c.after)) settings

/-! ### The texts that are written -/

/-- No reader meets a text that it does not know. -/
structure WellFormed (settings : Settings) : Prop where
  mode : settings .operatingMode ∈ ([none, some "observe", some "enforce"] : List (Option Text))
  switch : ∀ key, key ≠ .operatingMode →
    settings key ∈ ([none, some "false", some "true"] : List (Option Text))

/-- A change that leaves them so. -/
def SettingChange.WellFormed (c : SettingChange) : Prop :=
  if c.key = .operatingMode then c.after = "observe" ∨ c.after = "enforce"
  else c.after = "false" ∨ c.after = "true"

section Written

variable {settings : Settings} {cs : List SettingChange} {cfg : SafetyDefaults}

theorem WellFormed.set (h : WellFormed settings) {c : SettingChange} (hc : c.WellFormed) :
    WellFormed (Function.update settings c.key (some c.after)) := by
  obtain ⟨key, text⟩ := c
  constructor
  · by_cases hkey : key = .operatingMode
    · subst hkey
      rw [Function.update_self]
      rcases (if_pos rfl).mp hc with rfl | rfl <;> simp
    · rw [Function.update_of_ne (Ne.symm hkey)]
      exact h.mode
  · intro other hother
    by_cases hkey : other = key
    · subst hkey
      rw [Function.update_self]
      rcases (if_neg hother).mp hc with rfl | rfl <;> simp
    · rw [Function.update_of_ne hkey]
      exact h.switch other hother

theorem WellFormed.write (h : WellFormed settings) (hcs : ∀ c ∈ cs, c.WellFormed) :
    WellFormed (write settings cs) := by
  induction cs generalizing settings with
  | nil => exact h
  | cons c cs ih =>
    exact ih (h.set (hcs c List.mem_cons_self)) fun d hd => hcs d (List.mem_cons_of_mem _ hd)

end Written

/-! ### What a request changes -/

section Changes

variable {was : OperatingMode} {before : SystemSettings} {body : SettingsBody}
    {raw : Option JsonValue}
  {cs : List SettingChange} {c : SettingChange}

theorem mem_modeChange (h : modeChange was raw = .ok cs) (hc : c ∈ cs) :
    c.key = .operatingMode ∧ (c.after = "observe" ∨
      c.after = "enforce" ∧ raw.bind JsonValue.asStr = some "enforce" ∧ was ≠ .enforce) := by
  cases raw with
  | none =>
    obtain rfl : [] = cs := Except.ok.inj h
    cases hc
  | some raw =>
    rw [Option.bind_some]
    cases hraw : raw.asStr with
    | none =>
      simp only [modeChange, hraw] at h
      cases h
    | some v =>
      simp only [modeChange, hraw] at h
      split_ifs at h with hobserve hwas henforce hwas
      all_goals obtain rfl := Except.ok.inj h
      · obtain rfl := List.mem_singleton.mp hc
        exact ⟨rfl, .inl rfl⟩
      · cases hc
      · obtain rfl := List.mem_singleton.mp hc
        exact ⟨rfl, .inr ⟨rfl, congrArg some henforce, hwas⟩⟩
      · cases hc

theorem mem_switchChange {key : SettingKey} {was : Bool} {message : Text}
    (h : switchChange key was message raw = .ok cs) (hc : c ∈ cs) :
    c.key = key ∧ (c.after = "false" ∨
      c.after = "true" ∧ raw.bind JsonValue.asBool = some true ∧ was = false) := by
  cases raw with
  | none =>
    obtain rfl : [] = cs := Except.ok.inj h
    cases hc
  | some raw =>
    rw [Option.bind_some]
    cases hraw : raw.asBool with
    | none =>
      simp only [switchChange, hraw] at h
      cases h
    | some b =>
      simp only [switchChange, hraw] at h
      obtain rfl := Except.ok.inj h
      -- a switch that stays where it was is no change
      by_cases hwas : was = b
      · rw [if_neg (not_not.mpr hwas)] at hc
        cases hc
      · rw [if_pos hwas] at hc
        obtain rfl := List.mem_singleton.mp hc
        refine ⟨rfl, ?_⟩
        cases b with
        | false => exact .inl rfl
        | true => exact .inr ⟨rfl, rfl, Bool.eq_false_iff.mpr hwas⟩

/-- **What a request changes**: the mode to one of two texts, a switch to one of two others. It is
to `enforce`, or to `true`, only where the request says so and the settings do not. -/
theorem mem_changes (h : changes before body = .ok cs) (hc : c ∈ cs) :
    (c.key = .operatingMode ∧ (c.after = "observe" ∨ c.after = "enforce" ∧
      body.operatingMode.bind JsonValue.asStr = some "enforce" ∧
      before.operatingMode ≠ .enforce)) ∨
    (c.key = .automaticActionsEnabled ∧ (c.after = "false" ∨ c.after = "true" ∧
      body.automaticActionsEnabled.bind JsonValue.asBool = some true ∧
      before.automaticActionsEnabled = false)) ∨
    (c.key = .globalMaintenanceLock ∧ (c.after = "false" ∨ c.after = "true")) := by
  simp only [changes, bind, Except.bind] at h
  split at h
  · cases h
  next mode hmode =>
    split at h
    · cases h
    next automatic hautomatic =>
      split at h
      · cases h
      next lock hlock =>
        obtain rfl : mode ++ (automatic ++ lock) = cs := Except.ok.inj h
        rcases List.mem_append.mp hc with hc | hc
        · exact .inl (mem_modeChange hmode hc)
        rcases List.mem_append.mp hc with hc | hc
        · exact .inr (.inl (mem_switchChange hautomatic hc))
        · obtain ⟨hkey, hafter⟩ := mem_switchChange hlock hc
          exact .inr (.inr ⟨hkey, hafter.imp_right And.left⟩)

theorem wellFormed_of_changes (h : changes before body = .ok cs) : ∀ c ∈ cs, c.WellFormed := by
  intro c hc
  unfold SettingChange.WellFormed
  rcases mem_changes h hc with ⟨hkey, hafter⟩ | ⟨hkey, hafter⟩ | ⟨hkey, hafter⟩
  · rw [if_pos hkey]
    exact hafter.imp_right And.left
  · rw [if_neg (by rw [hkey]; decide)]
    exact hafter.imp_right And.left
  · rw [if_neg (by rw [hkey]; decide)]
    exact hafter

/-- What `update` has to have seen before it writes. -/
theorem update_eq_ok {cfg : SafetyDefaults} {settings : Settings} {session : Session}
    (h : update cfg settings session body = .ok cs) :
    session.admin = some true ∧ changes (settingsJson cfg settings) body = .ok cs ∧
      (arming (settingsJson cfg settings) body = true →
        session.SteppedUp ∧ body.password ≠ [] ∧ body.totpCode ≠ []) := by
  unfold update at h
  split at h
  · cases h
  · cases h
  next hadmin =>
    by_cases harming : arming (settingsJson cfg settings) body = true
    · rw [if_pos harming] at h
      simp only [bind, Except.bind, reauthenticate] at h
      split at h
      · cases h
      next hre =>
        split_ifs at hre with hthrottled hempty
        split at hre
        next hstep =>
          obtain ⟨hpassword, hcode⟩ := not_or.mp hempty
          exact ⟨hadmin, h, fun _ =>
            ⟨⟨hadmin, Bool.eq_false_iff.mpr hthrottled, hstep⟩, hpassword, hcode⟩⟩
        all_goals cases hre
    · rw [if_neg harming] at h
      exact ⟨hadmin, h, fun h' => absurd h' harming⟩

end Changes

/-! ### What the readers make of it -/

/-- What a request can arm. -/
inductive Switch where
  | mode | automatic
deriving DecidableEq

/-- The gates find it armed. -/
def Armed (cfg : SafetyDefaults) (settings : Settings) : Switch → Prop
  | .mode => operatingMode cfg false settings = .enforce
  | .automatic =>
    boolSetting false settings .automaticActionsEnabled cfg.automaticActionsEnabled = true

section Readers

variable {cfg : SafetyDefaults} {settings : Settings}

theorem boolSetting_eq_true {key : SettingKey} {default : Bool}
    (h : settings key = some "true") : boolSetting false settings key default = true := by
  rw [boolSetting, if_neg (by decide), if_pos h]

theorem boolSetting_eq_false {key : SettingKey} {default : Bool}
    (h : settings key = some "false") : boolSetting false settings key default = false := by
  rw [boolSetting, if_neg (by decide), if_neg (by rw [h]; decide), if_pos h]

theorem boolSetting_eq_default {key : SettingKey} {default : Bool} (h : settings key = none) :
    boolSetting false settings key default = default := by
  rw [boolSetting, if_neg (by decide), if_neg (by rw [h]; decide), if_neg (by rw [h]; decide)]

/-- And so does the gate that reads the maintenance lock a second time. -/
theorem slotMaintenance_eq (h : WellFormed settings) :
    slotMaintenance settings = boolSetting false settings .globalMaintenanceLock false := by
  have hlock := h.switch .globalMaintenanceLock (by decide)
  simp only [List.mem_cons, List.not_mem_nil, or_false] at hlock
  unfold slotMaintenance
  rcases hlock with h | h | h
  · rw [h, boolSetting_eq_default h]
    rfl
  · rw [h, boolSetting_eq_false h]
    decide
  · rw [h, boolSetting_eq_true h]
    decide

end Readers

end Policy

end Rerouter
