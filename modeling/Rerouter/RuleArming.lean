import Rerouter.Lib.Outcome
import Rerouter.RuleEdits

/-!
# An armed rule runs what was armed

Whenever a rule is armed, there is a request of an operator that armed it, after which nothing has
written its condition or its actions, whatever else has happened
(`Rerouter.Arming.armed_since`); every action that is enabled was allowed to run automatically
then, and none had drifted. The proof goes from the end of the run: an event leaves a rule armed
that it does not arm itself only if it leaves alone what the rule does
(`Rerouter.Arming.Keeps`).

An action of an automatic bundle is authorised while the policy fence is held, and the requests
that give a rule another revision wait for it; so the rule has the revision the bundle was
admitted with as long as the action runs (`Rerouter.Arming.executing_after`).
-/

namespace Rerouter.Arming

open Text

variable {P V : Type}

/-! ### Refusals -/

@[simp] theorem ensure_bind_eq_ok {α : Type} {c : Bool} {status : ℕ} {message : Text}
    {f : Unit → Except Refusal α}
    {a : α} : (ensure c status message >>= f) = .ok a ↔ c = true ∧ f () = .ok a := by
  cases c
  · exact ⟨nofun, fun h => nomatch h.1⟩
  · exact ⟨fun h => ⟨rfl, h⟩, fun h => h.2⟩

/-! ### What a rule does -/

/-- The rule is armed. -/
def RuleDb.armed (db : RuleDb P V) (id : ℕ) : Bool :=
  (db.rules id).any RuleRow.automaticRerouteEnabled

/-- The condition of a rule. -/
def RuleDb.condition (db : RuleDb P V) (id : ℕ) : Option (Condition V) :=
  (db.rules id).map RuleRow.condition

/-- The actions of a rule, but for what the audit found out about them. -/
def RuleDb.definition (db : RuleDb P V) (id : ℕ) : List (RuleAction P) :=
  (db.actionsOf id).map fun a => { a with inventoryState := .ok }

/-- Every action of a rule that is enabled may run automatically, and has not drifted. -/
def RuleDb.Allowed (db : RuleDb P V) (id : ℕ) : Prop :=
  ∀ a ∈ db.actionsOf id, a.enabled = true →
    (∃ t, db.templates a.rerouteTemplateId = some t ∧ t.enabled = true ∧
      t.automaticAllowed = true) ∧
      a.inventoryState ≠ .drifted

/-- A statement leaves alone what a rule does, unless it disarms the rule. -/
structure Keeps (id : ℕ) (db db' : RuleDb P V) : Prop where
  armed : db'.armed id = true → db.armed id = true
  condition : db'.armed id = true → db'.condition id = db.condition id
  definition : db'.armed id = true → db'.definition id = db.definition id

variable {db db' : RuleDb P V} {id : ℕ}

theorem Keeps.refl (id : ℕ) (db : RuleDb P V) : Keeps id db db :=
  ⟨fun h => h, fun _ => rfl, fun _ => rfl⟩

/-- What does not write the rule. -/
theorem Keeps.of_rules (hrules : db'.rules id = db.rules id)
    (hdefinition : db'.definition id = db.definition id) :
    Keeps id db db' where
  armed h := by rwa [RuleDb.armed, hrules] at h
  condition _ := by rw [RuleDb.condition, hrules, RuleDb.condition]
  definition _ := hdefinition

/-- What writes neither the rule nor its actions. -/
theorem Keeps.of_eq (hrules : db'.rules id = db.rules id)
    (hactions : db'.actionsOf id = db.actionsOf id) :
    Keeps id db db' :=
  Keeps.of_rules hrules (by rw [RuleDb.definition, hactions, RuleDb.definition])

/-- A rule that is not armed afterwards. -/
theorem Keeps.of_disarmed (h : db'.armed id = false) : Keeps id db db' where
  armed h' := absurd h' (by simp [h])
  condition h' := absurd h' (by simp [h])
  definition h' := absurd h' (by simp [h])

theorem armed_disarmActionEdit (db : RuleDb P V) (id : ℕ) :
    (disarmActionEdit db id).armed id = false := by
  unfold RuleDb.armed disarmActionEdit
  dsimp only
  rw [Function.update_self]
  cases db.rules id <;> rfl

/-- **Disarming**: what an edit writes besides is the actions of the rule it disarms. -/
theorem Keeps.of_disarm {ruleId : ℕ} (hrules : db'.rules = (disarmActionEdit db ruleId).rules)
    (hactions : ∀ id, id ≠ ruleId → db'.actionsOf id = db.actionsOf id) : Keeps id db db' := by
  rcases eq_or_ne id ruleId with rfl | hne
  · refine Keeps.of_disarmed ?_
    rw [RuleDb.armed, hrules]
    exact armed_disarmActionEdit db id
  · refine Keeps.of_eq ?_ (hactions id hne)
    rw [hrules, disarmActionEdit]
    exact Function.update_of_ne hne ..

/-! ### Integrity -/

/-- The references between the tables. -/
structure Sound (db : RuleDb P V) : Prop where
  fresh : ∀ id, db.nextRule ≤ id → db.rules id = none
  owned : ∀ a ∈ db.actions, a.ruleId < db.nextRule
  known : ∀ a ∈ db.actions, (db.templates a.rerouteTemplateId).isSome

theorem Sound.lt_nextRule (hs : Sound db) {r : RuleRow V} (h : db.rules id = some r) :
    id < db.nextRule := by
  by_contra hge
  rw [hs.fresh id (Nat.le_of_not_lt hge)] at h
  cases h

/-- The action of a statement that leaves out the rows of a rule, for another one. -/
theorem actionsOf_delete {p : RuleAction P → Bool} (hp : ∀ a, p a = true → a.ruleId ≠ id) :
    ({ db with actions := Table.delete p db.actions } : RuleDb P V).actionsOf id =
      db.actionsOf id := by
  unfold RuleDb.actionsOf Table.delete
  rw [List.filter_filter]
  refine List.filter_congr fun a _ => ?_
  cases hpa : p a with
  | false => simp
  | true => simpa using hp a hpa

/-- One that rewrites rows of another rule. -/
theorem filter_update {p : RuleAction P → Bool} {f : RuleAction P → RuleAction P}
    (hf : ∀ a, (f a).ruleId = a.ruleId)
    (hp : ∀ a, p a = true → a.ruleId ≠ id) (actions : List (RuleAction P)) :
    (Table.update p f actions).filter (fun a => a.ruleId = id) =
      actions.filter fun a => a.ruleId = id := by
  induction actions with
  | nil => rfl
  | cons a actions ih =>
    rw [Table.update, List.map_cons, List.filter_cons, List.filter_cons]
    rw [Table.update] at ih
    rw [ih]
    cases hpa : p a with
    | false => simp
    | true => simp [hf a, hp a hpa]

theorem filter_setPositions {ruleId : ℕ} (hne : id ≠ ruleId) (order : List ℕ) (position : ℕ)
    (actions : List (RuleAction P)) :
    (setPositions ruleId position order actions).filter (fun a => a.ruleId = id) =
      actions.filter fun a => a.ruleId = id := by
  induction order generalizing position actions with
  | nil => rfl
  | cons i order ih =>
    rw [setPositions, ih]
    refine filter_update (f := fun a => { a with position }) (fun _ => rfl) (fun a ha => ?_) actions
    have : a.ruleId = ruleId := by simpa using (Bool.and_eq_true_iff.mp ha).2
    exact this ▸ hne.symm

theorem actionsOf_insertAction {a : RuleAction P} (hne : id ≠ a.ruleId) :
    (insertAction db a).actionsOf id = db.actionsOf id := by
  unfold RuleDb.actionsOf insertAction
  simp [hne.symm]

/-- What inserting drafts leaves alone. -/
theorem insertDrafts_frame (ruleId : ℕ) (drafts : List (ActionDraft P)) (position : ℕ)
    (db : RuleDb P V) :
    (insertDrafts ruleId position drafts db).rules = db.rules ∧
      (insertDrafts ruleId position drafts db).nextRule = db.nextRule ∧
      (insertDrafts ruleId position drafts db).templates = db.templates ∧
      ∀ id, id ≠ ruleId →
        (insertDrafts ruleId position drafts db).actionsOf id = db.actionsOf id := by
  induction drafts generalizing position db with
  | nil => exact ⟨rfl, rfl, rfl, fun _ _ => rfl⟩
  | cons d drafts ih =>
    obtain ⟨hrules, hnext, htemplates, hactions⟩ := ih (position + 1) (insertAction db
      { id := 0, ruleId, rerouteTemplateId := d.rerouteTemplateId, deviceId := d.deviceId,
        params := d.params, position
        enabled := d.enabled, autoTarget := d.autoTarget })
    exact ⟨hrules, hnext, htemplates, fun id hne =>
      (hactions id hne).trans (actionsOf_insertAction hne)⟩

/-- Every row that is inserted is of the rule, and of the template of a draft. -/
theorem mem_insertDrafts {ruleId : ℕ} (drafts : List (ActionDraft P)) (position : ℕ)
    (db : RuleDb P V)
    {a : RuleAction P} (h : a ∈ (insertDrafts ruleId position drafts db).actions) :
    a ∈ db.actions ∨
      a.ruleId = ruleId ∧ ∃ d ∈ drafts, a.rerouteTemplateId = d.rerouteTemplateId := by
  induction drafts generalizing position db with
  | nil => exact Or.inl h
  | cons d drafts ih =>
    rcases ih (position + 1) _ h with hmem | ⟨hrule, d', hd', ht⟩
    · rcases List.mem_append.mp hmem with hold | hnew
      · exact Or.inl hold
      · obtain rfl := List.mem_singleton.mp hnew
        exact Or.inr ⟨rfl, d, by simp, rfl⟩
    · exact Or.inr ⟨hrule, d', List.mem_cons_of_mem _ hd', ht⟩

/-! ### Drafts -/

theorem known_validateDraft {inv : Inventory P} {flowRule : Bool} {position phase phase' : ℕ}
    {d d' : ActionDraft P}
    (h : validateDraft db inv flowRule position phase d = .ok (phase', d')) :
    (db.templates d'.rerouteTemplateId).isSome := by
  unfold validateDraft at h
  dsimp only at h
  split at h
  · cases h
  · rename_i template htemplate
    obtain ⟨-, -, h⟩ := bind_eq_ok.mp h
    obtain ⟨-, -, h⟩ := bind_eq_ok.mp h
    obtain ⟨-, -, h⟩ := bind_eq_ok.mp h
    obtain ⟨-, -, h⟩ := bind_eq_ok.mp h
    split at h
    · obtain ⟨-, -, h⟩ := bind_eq_ok.mp h
      obtain ⟨-, -, h⟩ := bind_eq_ok.mp h
      cases h
      simp [htemplate]
    · obtain ⟨params, -, h⟩ := bind_eq_ok.mp h
      obtain ⟨contained, -, h⟩ := bind_eq_ok.mp h
      obtain ⟨-, -, h⟩ := bind_eq_ok.mp h
      obtain ⟨-, -, h⟩ := bind_eq_ok.mp h
      cases h
      simp [htemplate]

theorem known_validateEach {inv : Inventory P} {flowRule : Bool} {position phase : ℕ}
    {drafts drafts' : List (ActionDraft P)}
    (h : validateEach db inv flowRule position phase drafts = .ok drafts') :
    ∀ d ∈ drafts', (db.templates d.rerouteTemplateId).isSome := by
  induction drafts generalizing position phase drafts' with
  | nil =>
    cases h
    nofun
  | cons d drafts ih =>
    obtain ⟨⟨phase', canonical⟩, hd, h⟩ := bind_eq_ok.mp h
    obtain ⟨rest, hrest, h⟩ := bind_eq_ok.mp h
    cases h
    rintro x (_ | ⟨_, hx⟩)
    · exact known_validateDraft hd
    · exact ih hrest x hx

/-- Every action that replaces those of a rule has a template. -/
theorem known_replacement {inv : Inventory P} {r : RuleRow V} {body : ReplaceActionsBody P}
    {drafts : List (ActionDraft P)} (h : replacement db inv r body = .ok drafts) :
    ∀ d ∈ drafts, (db.templates d.rerouteTemplateId).isSome := by
  unfold replacement validateDrafts invalid at h
  split at h
  · cases h
    nofun
  · split at h
    · rename_i hdrafts
      cases h
      split_ifs at hdrafts
      exact known_validateEach hdrafts
    · cases h

/-! ### What an edit leaves alone -/

theorem keeps_create {inv : Inventory P} {cfg : DetectionDefaults} {body : RuleBody V}
    (h : create db inv cfg body = .ok db') (hne : id ≠ db.nextRule) : Keeps id db db' := by
  obtain ⟨deviceId, -, h⟩ := bind_eq_ok.mp h
  obtain ⟨-, h⟩ := ensure_bind_eq_ok.mp h
  obtain rfl := Except.ok.inj h
  exact Keeps.of_eq (Function.update_of_ne hne ..) rfl

theorem armed_create {inv : Inventory P} {cfg : DetectionDefaults} {body : RuleBody V}
    (h : create db inv cfg body = .ok db') :
    db'.armed db.nextRule = body.automaticRerouteEnabled := by
  obtain ⟨deviceId, -, h⟩ := bind_eq_ok.mp h
  obtain ⟨-, h⟩ := ensure_bind_eq_ok.mp h
  obtain rfl := Except.ok.inj h
  unfold RuleDb.armed
  dsimp only
  rw [Function.update_self]
  rfl

theorem keeps_addAction {inv : Inventory P} {ruleId : ℕ} {body : RuleActionBody P}
    (h : addAction db inv ruleId body = .ok db') : Keeps id db db' := by
  unfold addAction at h
  split at h
  · cases h
  · cases h
  · simp only [unprocessable, ensure_bind_eq_ok] at h
    obtain ⟨-, -, -, h⟩ := h
    obtain ⟨⟨autoTarget, params⟩, -, h⟩ := bind_eq_ok.mp h
    obtain ⟨-, h⟩ := ensure_bind_eq_ok.mp h
    obtain ⟨flow, -, h⟩ := bind_eq_ok.mp h
    obtain rfl := Except.ok.inj h
    exact Keeps.of_disarm rfl fun id hne => actionsOf_insertAction hne

theorem keeps_removeAction {ruleId actionId : ℕ} (h : removeAction db ruleId actionId = .ok db') :
    Keeps id db db' := by
  obtain ⟨flow, -, h⟩ := bind_eq_ok.mp h
  obtain ⟨-, h⟩ := ensure_bind_eq_ok.mp h
  obtain rfl := Except.ok.inj h
  refine Keeps.of_disarm rfl fun id hne => actionsOf_delete fun a ha => ?_
  have : a.ruleId = ruleId := by simpa using (Bool.and_eq_true_iff.mp ha).2
  exact this ▸ hne.symm

/-- What `replace_actions` does to a rule that is there. -/
theorem replaceActions_eq_ok {inv : Inventory P} {ruleId : ℕ} {body : ReplaceActionsBody P}
    (h : replaceActions db inv ruleId body = .ok db') :
    ∃ actions, (db.rules ruleId).isSome ∧
      (∀ d ∈ actions, (db.templates d.rerouteTemplateId).isSome) ∧
      db' = disarmActionEdit
        (insertDrafts ruleId 0 actions
          { db with actions := Table.delete (fun a => a.ruleId = ruleId) db.actions })
        ruleId := by
  unfold replaceActions at h
  split at h
  · cases h
  · rename_i r hr
    obtain ⟨actions, hactions, h⟩ := bind_eq_ok.mp h
    obtain ⟨flow, -, h⟩ := bind_eq_ok.mp h
    obtain ⟨-, -, h⟩ := bind_eq_ok.mp h
    obtain rfl := Except.ok.inj h
    exact ⟨actions, by simp [hr], known_replacement hactions, rfl⟩

theorem keeps_replaceActions {inv : Inventory P} {ruleId : ℕ} {body : ReplaceActionsBody P}
    (h : replaceActions db inv ruleId body = .ok db') : Keeps id db db' := by
  obtain ⟨actions, -, -, rfl⟩ := replaceActions_eq_ok h
  obtain ⟨hrules, -, -, hothers⟩ := insertDrafts_frame ruleId actions 0
    ({ db with actions := Table.delete (fun a => a.ruleId = ruleId) db.actions } : RuleDb P V)
  have hkept : ∀ id, id ≠ ruleId →
      ({ db with
          actions := Table.delete (fun a => a.ruleId = ruleId) db.actions } : RuleDb P V).actionsOf
        id =
        db.actionsOf id := by
    intro id hne
    refine actionsOf_delete fun a ha => ?_
    have : a.ruleId = ruleId := by simpa using ha
    exact this ▸ hne.symm
  refine Keeps.of_disarm ?_ fun id hne => (hothers id hne).trans (hkept id hne)
  unfold disarmActionEdit
  rw [hrules]

theorem keeps_reorderActions {ruleId : ℕ} {order : List ℕ}
    (h : reorderActions db ruleId order = .ok db') :
    Keeps id db db' := by
  simp only [reorderActions, unprocessable, ensure_bind_eq_ok] at h
  obtain ⟨-, -, -, h⟩ := h
  obtain ⟨flow, -, h⟩ := bind_eq_ok.mp h
  obtain rfl := Except.ok.inj h
  exact Keeps.of_disarm rfl fun id hne => filter_setPositions hne order 0 db.actions

/-- What the audit finds out is not part of what a rule does. -/
theorem definition_audit {p : RuleAction P → Bool} (state : InventoryState)
    (actions : List (RuleAction P)) :
    ((Table.update p (fun a => { a with inventoryState := state }) actions).filter
      fun a => a.ruleId = id).map
        (fun a => { a with inventoryState := .ok }) =
      (actions.filter fun a => a.ruleId = id).map fun a => { a with inventoryState := .ok } := by
  induction actions with
  | nil => rfl
  | cons a actions ih =>
    rw [Table.update] at ih
    rw [Table.update, List.map_cons, List.filter_cons, List.filter_cons]
    by_cases hid : a.ruleId = id <;> cases p a <;> simp [hid, ih]

theorem keeps_recordDrift (a : AuditedAction) (reason : Text) :
    Keeps id db (recordDrift db a reason) := by
  unfold recordDrift
  split
  · exact Keeps.refl id db
  · rcases eq_or_ne id a.ruleId with rfl | hne
    · refine Keeps.of_disarmed ?_
      unfold RuleDb.armed
      dsimp only
      rw [Function.update_self]
      cases db.rules a.ruleId with
      | none => rfl
      | some r => cases h : r.automaticRerouteEnabled <;> simp [h]
    · exact Keeps.of_rules (Function.update_of_ne hne ..) (definition_audit _ _)

theorem keeps_clearDrift (a : AuditedAction) : Keeps id db (clearDrift db a) := by
  unfold clearDrift
  split
  · exact Keeps.refl id db
  · exact ⟨fun h => h, fun _ => rfl, fun _ => definition_audit _ _⟩

/-! ### Updates -/

section Update

variable {body : RuleUpdate V}

theorem forall_mem_assign {α : Type} {o : Option α} {f : RuleRow V → α → RuleRow V}
    {q : (RuleRow V → RuleRow V) → Prop}
    (h : ∀ v, o = some v → q fun r => f r v) : ∀ g ∈ RuleUpdate.assign o f, q g := by
  unfold RuleUpdate.assign
  cases o with
  | none => nofun
  | some v =>
    rintro g hg
    obtain rfl := List.mem_singleton.mp hg
    exact h v rfl

/-- What every assignment keeps, the statement keeps. -/
theorem foldl_sets {q : RuleRow V → Prop} {fs : List (RuleRow V → RuleRow V)}
    (h : ∀ f ∈ fs, ∀ r, q r → q (f r))
    {r : RuleRow V} (hr : q r) : q (fs.foldl (fun r f => f r) r) := by
  induction fs generalizing r with
  | nil => exact hr
  | cons f fs ih => exact ih (fun g hg => h g (List.mem_cons_of_mem _ hg)) (h f (by simp) r hr)

/-- An update that does not arm the rule leaves it as it is, or disarms it. -/
theorem sets_armed (hbody : body.automaticRerouteEnabled ≠ some true) {r : RuleRow V}
    (h : (body.sets.foldl (fun r f => f r) r).automaticRerouteEnabled = true) :
    r.automaticRerouteEnabled = true := by
  have hsets : ∀ f ∈ body.sets, ∀ r' : RuleRow V,
      (r'.automaticRerouteEnabled = true → r.automaticRerouteEnabled = true) →
        (f r').automaticRerouteEnabled = true → r.automaticRerouteEnabled = true := by
    unfold RuleUpdate.sets
    repeat' refine List.forall_mem_append.mpr ⟨?_, ?_⟩
    all_goals try exact forall_mem_assign fun _ _ _ hr => hr
    · refine forall_mem_assign
        (q := fun f => ∀ r' : RuleRow V, _ → (f r').automaticRerouteEnabled = true → _) ?_
      rintro v hv r' - rfl
      exact absurd hv hbody
    · rw [if_neg hbody]
      nofun
    · split
      · rintro f (_ | ⟨_, _ | ⟨_, _ | ⟨_, hf⟩⟩⟩) r' hr hset
        · exact hr hset
        · cases hset
        · exact hr hset
        · cases hf
      · nofun
  exact foldl_sets
    (q := fun r' => r'.automaticRerouteEnabled = true → r.automaticRerouteEnabled = true) hsets
    (fun h => h) h

/-- An update that changes the condition disarms the rule, whatever else it says. -/
theorem sets_changed (hbody : body.conditionChanged = true) (r : RuleRow V) :
    (body.sets.foldl (fun r f => f r) r).automaticRerouteEnabled = false := by
  unfold RuleUpdate.sets
  rw [if_pos hbody, List.foldl_append]
  rfl

/-- An update that does not change the condition writes none of its columns. -/
theorem sets_unchanged (hbody : body.conditionChanged = false) (r : RuleRow V) :
    (body.sets.foldl (fun r f => f r) r).condition = r.condition := by
  have hsets : ∀ f ∈ body.sets, ∀ r' : RuleRow V,
      r'.condition = r.condition → (f r').condition = r.condition := by
    unfold RuleUpdate.sets
    repeat' refine List.forall_mem_append.mpr ⟨?_, ?_⟩
    all_goals try exact forall_mem_assign fun _ _ _ hr => hr
    -- of the columns of the condition the request says nothing
    all_goals
      try exact forall_mem_assign fun v hv =>
        absurd hbody (by simp [RuleUpdate.conditionChanged, hv])
    · split
      · rintro f (_ | ⟨_, hf⟩) r' hr
        · exact hr
        · cases hf
      · nofun
    · rw [hbody]
      nofun
  exact foldl_sets (q := fun r' => r'.condition = r.condition) hsets rfl

/-- What `update` does to a rule that is there. -/
theorem update_eq_ok (h : update db id body = .ok db') :
    ∃ existing, db.rules id = some existing ∧ checkUpdate db id existing body = .ok () ∧
      db' = { db with
        rules := Function.update db.rules id (some (body.sets.foldl (fun r f => f r) existing))
        states :=
          if body.conditionChanged then Function.update db.states id (some "clear".toList)
          else db.states } := by
  unfold update at h
  split at h
  · cases h
  · rename_i existing hexisting
    obtain ⟨⟨⟩, hcheck, h⟩ := bind_eq_ok.mp h
    obtain ⟨-, h⟩ := ensure_bind_eq_ok.mp h
    exact ⟨existing, hexisting, hcheck, (Except.ok.inj h).symm⟩

theorem keeps_update {id' : ℕ} (h : update db id' body = .ok db')
    (hbody : id = id' → body.automaticRerouteEnabled ≠ some true) : Keeps id db db' := by
  obtain ⟨existing, hexisting, -, rfl⟩ := update_eq_ok h
  rcases eq_or_ne id id' with rfl | hne
  · cases hchanged : body.conditionChanged with
    | true =>
      refine Keeps.of_disarmed ?_
      unfold RuleDb.armed
      dsimp only
      rw [Function.update_self]
      exact sets_changed hchanged existing
    | false =>
      refine ⟨fun harmed => ?_, fun _ => ?_, fun _ => rfl⟩
      · unfold RuleDb.armed at harmed ⊢
        dsimp only at harmed
        rw [Function.update_self] at harmed
        rw [hexisting]
        exact sets_armed (hbody rfl) harmed
      · unfold RuleDb.condition
        dsimp only
        rw [Function.update_self, hexisting]
        exact congrArg some (sets_unchanged hchanged existing)
  · exact Keeps.of_eq (Function.update_of_ne hne ..) rfl

theorem checkArming_of_checkUpdate {existing : RuleRow V}
    (h : checkUpdate db id existing body = .ok ()) :
    checkArming db id body = .ok () := by
  unfold checkUpdate at h
  obtain ⟨-, -, h⟩ := bind_eq_ok.mp h
  obtain ⟨-, -, h⟩ := bind_eq_ok.mp h
  obtain ⟨-, -, h⟩ := bind_eq_ok.mp h
  obtain ⟨-, -, h⟩ := bind_eq_ok.mp h
  obtain ⟨-, -, h⟩ := bind_eq_ok.mp h
  obtain ⟨-, -, h⟩ := bind_eq_ok.mp h
  obtain ⟨-, -, h⟩ := bind_eq_ok.mp h
  obtain ⟨⟨⟩, harming, -⟩ := bind_eq_ok.mp h
  exact harming

/-- **A rule is armed only when its actions are allowed.** -/
theorem allowed_update (hs : Sound db) (h : update db id body = .ok db')
    (hbody : body.automaticRerouteEnabled = some true) : db'.Allowed id := by
  obtain ⟨existing, -, hcheck, rfl⟩ := update_eq_ok h
  have harming := checkArming_of_checkUpdate hcheck
  unfold checkArming unprocessable at harming
  rw [if_neg (not_not_intro hbody), ensure_bind_eq_ok] at harming
  obtain ⟨hrisky, hdrifted⟩ := harming
  have hrisky := List.countP_eq_zero.mp (of_decide_eq_true hrisky)
  intro a ha henabled
  have hmem : a ∈ db.actions := (List.mem_filter.mp ha).1
  refine ⟨?_, fun hdrift => ?_⟩
  · obtain ⟨t, ht⟩ := Option.isSome_iff_exists.mp (hs.known a hmem)
    have := hrisky a ha
    simp only [unsafeAction, henabled, ht, Option.any_some, Bool.true_and, Bool.or_eq_true,
      Bool.not_eq_true', not_or, Bool.not_eq_false] at this
    exact ⟨t, ht, this⟩
  · unfold ensure at hdrifted
    split at hdrifted
    · rename_i hcount
      have := List.countP_eq_zero.mp (of_decide_eq_true hcount) a ha
      simp [henabled, hdrift] at this
    · cases hdrifted

/-- A rule that is created has no actions. -/
theorem allowed_create (hs : Sound db) {inv : Inventory P} {cfg : DetectionDefaults}
    {body : RuleBody V}
    (h : create db inv cfg body = .ok db') : db'.Allowed db.nextRule := by
  obtain ⟨deviceId, -, h⟩ := bind_eq_ok.mp h
  obtain ⟨-, h⟩ := ensure_bind_eq_ok.mp h
  obtain rfl := Except.ok.inj h
  intro a ha
  obtain ⟨hmem, hrule⟩ := List.mem_filter.mp ha
  have hrule : a.ruleId = db.nextRule := of_decide_eq_true hrule
  exact absurd hrule (Nat.ne_of_lt (hs.owned a hmem))

end Update

/-! ### Integrity is kept -/

/-- What an edit must be for the references to stay. -/
theorem Sound.edit (hs : Sound db) (hnext : db'.nextRule = db.nextRule)
    (htemplates : db'.templates = db.templates)
    (hrules : ∀ id, db.rules id = none → db'.rules id = none)
    (hactions : ∀ a ∈ db'.actions,
      (∃ b ∈ db.actions, a.ruleId = b.ruleId ∧ a.rerouteTemplateId = b.rerouteTemplateId) ∨
      a.ruleId < db.nextRule ∧ (db.templates a.rerouteTemplateId).isSome) : Sound db' where
  fresh id hid := hrules id (hs.fresh id (hnext ▸ hid))
  owned a ha := by
    rw [hnext]
    rcases hactions a ha with ⟨b, hb, hrule, -⟩ | ⟨hlt, -⟩
    · exact hrule ▸ hs.owned b hb
    · exact hlt
  known a ha := by
    rw [htemplates]
    rcases hactions a ha with ⟨b, hb, -, htemplate⟩ | ⟨-, hknown⟩
    · exact htemplate ▸ hs.known b hb
    · exact hknown

theorem rules_disarmActionEdit {ruleId : ℕ} (h : db.rules id = none) :
    (disarmActionEdit db ruleId).rules id = none := by
  unfold disarmActionEdit
  dsimp only
  rcases eq_or_ne id ruleId with rfl | hne
  · rw [Function.update_self, h]
    rfl
  · rw [Function.update_of_ne hne]
    exact h

theorem sound_create (hs : Sound db) {inv : Inventory P} {cfg : DetectionDefaults}
    {body : RuleBody V}
    (h : create db inv cfg body = .ok db') : Sound db' := by
  obtain ⟨deviceId, -, h⟩ := bind_eq_ok.mp h
  obtain ⟨-, h⟩ := ensure_bind_eq_ok.mp h
  obtain rfl := Except.ok.inj h
  refine ⟨fun id hid => ?_, fun a ha => Nat.lt_succ_of_lt (hs.owned a ha), hs.known⟩
  have hlt : db.nextRule < id := hid
  dsimp only
  rw [Function.update_of_ne (Nat.ne_of_gt hlt)]
  exact hs.fresh id hlt.le

theorem sound_update (hs : Sound db) {body : RuleUpdate V} (h : update db id body = .ok db') :
    Sound db' := by
  obtain ⟨existing, hexisting, -, rfl⟩ := update_eq_ok h
  refine hs.edit rfl rfl (fun id' hnone => ?_) fun a ha => Or.inl ⟨a, ha, rfl, rfl⟩
  dsimp only
  rcases eq_or_ne id' id with rfl | hne
  · rw [hexisting] at hnone
    cases hnone
  · rw [Function.update_of_ne hne]
    exact hnone

theorem sound_addAction (hs : Sound db) {inv : Inventory P} {ruleId : ℕ} {body : RuleActionBody P}
    (h : addAction db inv ruleId body = .ok db') : Sound db' := by
  unfold addAction at h
  split at h
  · cases h
  · cases h
  · rename_i r template hr htemplate
    simp only [unprocessable, ensure_bind_eq_ok] at h
    obtain ⟨-, -, -, h⟩ := h
    obtain ⟨⟨autoTarget, params⟩, -, h⟩ := bind_eq_ok.mp h
    obtain ⟨-, h⟩ := ensure_bind_eq_ok.mp h
    obtain ⟨flow, -, h⟩ := bind_eq_ok.mp h
    obtain rfl := Except.ok.inj h
    refine hs.edit rfl rfl (fun _ => rules_disarmActionEdit) fun a ha => ?_
    rcases List.mem_append.mp ha with hold | hnew
    · exact Or.inl ⟨a, hold, rfl, rfl⟩
    · obtain rfl := List.mem_singleton.mp hnew
      exact Or.inr ⟨hs.lt_nextRule hr, by simp [htemplate]⟩

theorem sound_removeAction (hs : Sound db) {ruleId actionId : ℕ}
    (h : removeAction db ruleId actionId = .ok db') :
    Sound db' := by
  obtain ⟨flow, -, h⟩ := bind_eq_ok.mp h
  obtain ⟨-, h⟩ := ensure_bind_eq_ok.mp h
  obtain rfl := Except.ok.inj h
  exact hs.edit rfl rfl (fun _ => rules_disarmActionEdit)
    fun a ha => Or.inl ⟨a, (Table.mem_delete.mp ha).1, rfl, rfl⟩

theorem sound_replaceActions (hs : Sound db) {inv : Inventory P} {ruleId : ℕ}
    {body : ReplaceActionsBody P}
    (h : replaceActions db inv ruleId body = .ok db') : Sound db' := by
  obtain ⟨actions, hrule, hknown, rfl⟩ := replaceActions_eq_ok h
  obtain ⟨r, hr⟩ := Option.isSome_iff_exists.mp hrule
  obtain ⟨hrules, hnext, htemplates, -⟩ := insertDrafts_frame ruleId actions 0
    ({ db with actions := Table.delete (fun a => a.ruleId = ruleId) db.actions } : RuleDb P V)
  refine hs.edit hnext htemplates (fun id hnone => rules_disarmActionEdit ?_) fun a ha => ?_
  · rw [hrules]
    exact hnone
  · rcases mem_insertDrafts actions 0 _ ha with hold | ⟨howner, d, hd, htemplate⟩
    · exact Or.inl ⟨a, (Table.mem_delete.mp hold).1, rfl, rfl⟩
    · exact Or.inr ⟨howner ▸ hs.lt_nextRule hr, htemplate ▸ hknown d hd⟩

theorem mem_setPositions {ruleId : ℕ} {order : List ℕ} {position : ℕ}
    {actions : List (RuleAction P)} {a : RuleAction P}
    (h : a ∈ setPositions ruleId position order actions) :
    ∃ b ∈ actions, a.ruleId = b.ruleId ∧ a.rerouteTemplateId = b.rerouteTemplateId := by
  induction order generalizing position actions with
  | nil => exact ⟨a, h, rfl, rfl⟩
  | cons i order ih =>
    obtain ⟨b, hb, hrule, htemplate⟩ := ih h
    obtain ⟨c, hc, rfl⟩ := Table.mem_update.mp hb
    refine ⟨c, hc, ?_, ?_⟩
    · rw [hrule]
      split <;> rfl
    · rw [htemplate]
      split <;> rfl

theorem sound_reorderActions (hs : Sound db) {ruleId : ℕ} {order : List ℕ}
    (h : reorderActions db ruleId order = .ok db') : Sound db' := by
  simp only [reorderActions, unprocessable, ensure_bind_eq_ok] at h
  obtain ⟨-, -, -, h⟩ := h
  obtain ⟨flow, -, h⟩ := bind_eq_ok.mp h
  obtain rfl := Except.ok.inj h
  exact hs.edit rfl rfl (fun _ => rules_disarmActionEdit) fun a ha => Or.inl (mem_setPositions ha)

/-- The audit rewrites rows, and none of their references. -/
theorem mem_audit {p : RuleAction P → Bool} {state : InventoryState} {actions : List (RuleAction P)}
    {a : RuleAction P}
    (h : a ∈ Table.update p (fun a => { a with inventoryState := state }) actions) :
    ∃ b ∈ actions, a.ruleId = b.ruleId ∧ a.rerouteTemplateId = b.rerouteTemplateId := by
  obtain ⟨b, hb, rfl⟩ := Table.mem_update.mp h
  exact ⟨b, hb, by split <;> rfl, by split <;> rfl⟩

theorem sound_recordDrift (hs : Sound db) (a : AuditedAction) (reason : Text) :
    Sound (recordDrift db a reason) := by
  unfold recordDrift
  split
  · exact hs
  · refine hs.edit rfl rfl (fun id hnone => ?_) fun _ ha => Or.inl (mem_audit ha)
    dsimp only
    rcases eq_or_ne id a.ruleId with rfl | hne
    · rw [Function.update_self, hnone]
      rfl
    · rw [Function.update_of_ne hne]
      exact hnone

theorem sound_clearDrift (hs : Sound db) (a : AuditedAction) : Sound (clearDrift db a) := by
  unfold clearDrift
  split
  · exact hs
  · exact hs.edit rfl rfl (fun _ hnone => hnone) fun _ ha => Or.inl (mem_audit ha)

/-! ### Steps -/

variable {s t : System P V} {e : Event P V}

/-- What a request does that waits for the policy fence. -/
theorem fenced_eq_ok {r : Except Refusal (RuleDb P V)} (h : s.fenced r = .ok t) :
    s.executing = none ∧ ∃ db, r = .ok db ∧ t = { s with db } := by
  unfold System.fenced at h
  split at h
  · cases h
  · rename_i hfree
    refine ⟨Option.not_isSome_iff_eq_none.mp hfree, ?_⟩
    cases r with
    | error e => cases h
    | ok db => exact ⟨db, rfl, (Except.ok.inj h).symm⟩

theorem step_of_ok (h : s.apply e = .ok t) : s.step e = t := by rw [System.step, h]

theorem step_of_error {x : Refusal} (h : s.apply e = .error x) : s.step e = s := by
  rw [System.step, h]

/-- What an event keeps that is carried out, it keeps. -/
theorem step_induction {q : System P V → Prop} (hs : q s) (h : ∀ t, s.apply e = .ok t → q t) :
    q (s.step e) := by
  cases happly : s.apply e with
  | ok t => exact (step_of_ok happly).symm ▸ h t happly
  | error x => exact (step_of_error happly).symm ▸ hs

/-- A request of an operator to arm a rule. -/
def Event.RequestsArming (s : System P V) (id : ℕ) : Event P V → Prop
  | .create _ _ body => body.automaticRerouteEnabled = true ∧ id = s.db.nextRule
  | .update id' body => body.automaticRerouteEnabled = some true ∧ id = id'
  | _ => False

/-- **An operator arms a rule**: the request is carried out, and the rule is armed. -/
structure Arms (s : System P V) (e : Event P V) (id : ℕ) : Prop where
  requested : e.RequestsArming s id
  accepted : ∃ t, s.apply e = .ok t
  armed : (s.step e).db.armed id = true

theorem sound_apply (hs : Sound s.db) (h : s.apply e = .ok t) : Sound t.db := by
  cases e with
  | create inv cfg body =>
    cases hr : create s.db inv cfg body with
    | error x =>
      rw [System.apply, hr] at h
      cases h
    | ok db =>
      rw [System.apply, hr] at h
      obtain rfl := Except.ok.inj h
      exact sound_create hs hr
  | update id body =>
    obtain ⟨-, db, hr, rfl⟩ := fenced_eq_ok h
    exact sound_update hs hr
  | addAction inv ruleId body =>
    obtain ⟨-, db, hr, rfl⟩ := fenced_eq_ok h
    exact sound_addAction hs hr
  | removeAction ruleId actionId =>
    obtain ⟨-, db, hr, rfl⟩ := fenced_eq_ok h
    exact sound_removeAction hs hr
  | replaceActions inv ruleId body =>
    obtain ⟨-, db, hr, rfl⟩ := fenced_eq_ok h
    exact sound_replaceActions hs hr
  | reorderActions ruleId order =>
    obtain ⟨-, db, hr, rfl⟩ := fenced_eq_ok h
    exact sound_reorderActions hs hr
  | recordDrift a reason =>
    obtain ⟨-, db, hr, rfl⟩ := fenced_eq_ok h
    obtain rfl := Except.ok.inj hr
    exact sound_recordDrift hs a reason
  | clearDrift a =>
    obtain ⟨-, db, hr, rfl⟩ := fenced_eq_ok h
    obtain rfl := Except.ok.inj hr
    exact sound_clearDrift hs a
  | setState ruleId state =>
    obtain rfl := Except.ok.inj h
    exact ⟨hs.fresh, hs.owned, hs.known⟩
  | admission b =>
    obtain rfl := Except.ok.inj h
    exact ⟨hs.fresh, hs.owned, hs.known⟩
  | settle bundle state lifecycle remaining =>
    obtain rfl := Except.ok.inj h
    exact ⟨hs.fresh, hs.owned, hs.known⟩
  | execute bundle gates =>
    unfold System.apply at h
    dsimp only at h
    split at h
    · cases h
    · obtain rfl := Except.ok.inj h
      exact hs
  | executed =>
    obtain rfl := Except.ok.inj h
    exact hs

/-- **An event that is no request to arm a rule leaves alone what the rule does**, or disarms it. -/
theorem keeps_apply (h : s.apply e = .ok t) (hrequest : ¬ e.RequestsArming s id)
    (harmed : t.db.armed id = true) :
    Keeps id s.db t.db := by
  cases e with
  | create inv cfg body =>
    cases hr : create s.db inv cfg body with
    | error x =>
      rw [System.apply, hr] at h
      cases h
    | ok db =>
      rw [System.apply, hr] at h
      obtain rfl := Except.ok.inj h
      rcases eq_or_ne id s.db.nextRule with rfl | hne
      · exact absurd ⟨(armed_create hr).symm.trans harmed, rfl⟩ hrequest
      · exact keeps_create hr hne
  | update id' body =>
    obtain ⟨-, db, hr, rfl⟩ := fenced_eq_ok h
    exact keeps_update hr fun hid hbody => hrequest ⟨hbody, hid⟩
  | addAction inv ruleId body =>
    obtain ⟨-, db, hr, rfl⟩ := fenced_eq_ok h
    exact keeps_addAction hr
  | removeAction ruleId actionId =>
    obtain ⟨-, db, hr, rfl⟩ := fenced_eq_ok h
    exact keeps_removeAction hr
  | replaceActions inv ruleId body =>
    obtain ⟨-, db, hr, rfl⟩ := fenced_eq_ok h
    exact keeps_replaceActions hr
  | reorderActions ruleId order =>
    obtain ⟨-, db, hr, rfl⟩ := fenced_eq_ok h
    exact keeps_reorderActions hr
  | recordDrift a reason =>
    obtain ⟨-, db, hr, rfl⟩ := fenced_eq_ok h
    obtain rfl := Except.ok.inj hr
    exact keeps_recordDrift a reason
  | clearDrift a =>
    obtain ⟨-, db, hr, rfl⟩ := fenced_eq_ok h
    obtain rfl := Except.ok.inj hr
    exact keeps_clearDrift a
  | setState ruleId state =>
    obtain rfl := Except.ok.inj h
    exact Keeps.of_eq rfl rfl
  | admission b =>
    obtain rfl := Except.ok.inj h
    exact Keeps.of_eq rfl rfl
  | settle bundle state lifecycle remaining =>
    obtain rfl := Except.ok.inj h
    exact Keeps.of_eq rfl rfl
  | execute bundle gates =>
    unfold System.apply at h
    dsimp only at h
    split at h
    · cases h
    · obtain rfl := Except.ok.inj h
      exact Keeps.refl id _
  | executed =>
    obtain rfl := Except.ok.inj h
    exact Keeps.refl id _

/-- A request to arm a rule that is carried out was checked. -/
theorem allowed_apply (hs : Sound s.db) (h : s.apply e = .ok t) (hrequest : e.RequestsArming s id) :
    t.db.Allowed id := by
  cases e with
  | create inv cfg body =>
    obtain ⟨-, rfl⟩ := hrequest
    cases hr : create s.db inv cfg body with
    | error x =>
      rw [System.apply, hr] at h
      cases h
    | ok db =>
      rw [System.apply, hr] at h
      obtain rfl := Except.ok.inj h
      exact allowed_create hs hr
  | update id' body =>
    obtain ⟨hbody, rfl⟩ := hrequest
    obtain ⟨-, db, hr, rfl⟩ := fenced_eq_ok h
    exact allowed_update hs hr hbody
  | _ => exact hrequest.elim

theorem sound_step (hs : Sound s.db) (e : Event P V) : Sound (s.step e).db :=
  step_induction (q := fun s => Sound s.db) hs fun _ => sound_apply hs

/-- **One step**: an operator arms the rule, and what it does was checked; or what it does is left
alone, if it is armed at all. -/
theorem arms_or_keeps (hs : Sound s.db) (e : Event P V) (id : ℕ) :
    Arms s e id ∧ (s.step e).db.Allowed id ∨ ¬ Arms s e id ∧ Keeps id s.db (s.step e).db := by
  by_cases harms : Arms s e id
  · obtain ⟨t, ht⟩ := harms.accepted
    refine Or.inl ⟨harms, ?_⟩
    rw [step_of_ok ht]
    exact allowed_apply hs ht harms.requested
  · refine Or.inr ⟨harms, ?_⟩
    cases harmed : (s.step e).db.armed id with
    | false => exact Keeps.of_disarmed harmed
    | true =>
      cases happly : s.apply e with
      | error x =>
        rw [step_of_error happly]
        exact Keeps.refl id s.db
      | ok t =>
        rw [step_of_ok happly] at harmed ⊢
        refine keeps_apply happly (fun hrequest => harms ⟨hrequest, ⟨t, happly⟩, ?_⟩) harmed
        rw [step_of_ok happly]
        exact harmed

/-! ### Runs -/

section Runs

variable (templates : ℕ → Option RerouteTemplate)

theorem after_concat (es : List (Event P V)) (e : Event P V) :
    System.after templates (es ++ [e]) = (System.after templates es).step e := by
  unfold System.after
  rw [Run.run_append]
  rfl

theorem sound_after (es : List (Event P V)) : Sound (System.after templates es : System P V).db :=
  Run.invariant (I := fun s : System P V => Sound s.db) (fun _ e hs => sound_step hs e) es
    ⟨fun _ _ => rfl, nofun, nofun⟩

/-- **What an operator armed**: an event of the run is the last one that arms the rule; its actions
were allowed then; and nothing has written its condition or its actions since. -/
structure ArmedAt (earlier : List (Event P V)) (e : Event P V) (later : List (Event P V)) (id : ℕ) :
    Prop where
  arms : Arms (System.after templates earlier) e id
  allowed : (System.after templates (earlier ++ [e])).db.Allowed id
  last : ∀ mid e' rest, later = mid ++ e' :: rest →
    ¬ Arms (System.after templates (earlier ++ e :: mid)) e' id
  condition : ∀ mid, mid <+: later →
    (System.after templates (earlier ++ e :: mid)).db.condition id =
      (System.after templates (earlier ++ [e])).db.condition id
  definition : ∀ mid, mid <+: later →
    (System.after templates (earlier ++ e :: mid)).db.definition id =
      (System.after templates (earlier ++ [e])).db.definition id

variable {templates}

/-- An event that arms the rule. -/
theorem ArmedAt.of_arms {earlier : List (Event P V)} {e : Event P V}
    (h : Arms (System.after templates earlier) e id)
    (hallowed : ((System.after templates earlier).step e).db.Allowed id) :
    ArmedAt templates earlier e [] id where
  arms := h
  allowed := by
    rw [after_concat]
    exact hallowed
  last mid e' rest hlater := by simp at hlater
  condition mid hmid := by rw [List.prefix_nil.mp hmid]
  definition mid hmid := by rw [List.prefix_nil.mp hmid]

/-- An event that does not, and after which the rule is still armed. -/
theorem ArmedAt.concat {earlier later : List (Event P V)} {e e' : Event P V}
    (h : ArmedAt templates earlier e later id)
    (hlast : ¬ Arms (System.after templates (earlier ++ e :: later)) e' id)
    (hkeeps : Keeps id (System.after templates (earlier ++ e :: later)).db
      ((System.after templates (earlier ++ e :: later)).step e').db)
    (harmed : ((System.after templates (earlier ++ e :: later)).step e').db.armed id = true) :
    ArmedAt templates earlier e (later ++ [e']) id where
  arms := h.arms
  allowed := h.allowed
  last mid e'' rest hlater := by
    rcases List.eq_nil_or_concat rest with rfl | ⟨rest, x, rfl⟩
    · obtain ⟨rfl, rfl⟩ := List.concat_inj.mp (by simpa using hlater)
      exact hlast
    · rw [List.concat_eq_append, ← List.cons_append, ← List.append_assoc] at hlater
      exact h.last mid e'' rest (List.append_inj_left' hlater rfl)
  condition mid hmid := by
    rcases List.prefix_concat_iff.mp hmid with rfl | hold
    · rw [← List.cons_append, ← List.append_assoc, after_concat, hkeeps.condition harmed]
      exact h.condition later (List.prefix_refl later)
    · exact h.condition mid hold
  definition mid hmid := by
    rcases List.prefix_concat_iff.mp hmid with rfl | hold
    · rw [← List.cons_append, ← List.append_assoc, after_concat, hkeeps.definition harmed]
      exact h.definition later (List.prefix_refl later)
    · exact h.definition mid hold

/-- **An armed rule was armed by an operator**, and it does what it did then. -/
theorem armed_since (es : List (Event P V)) (id : ℕ)
    (h : (System.after templates es).db.armed id = true) :
    ∃ earlier e later, es = earlier ++ e :: later ∧ ArmedAt templates earlier e later id := by
  induction es using List.reverseRecOn with
  | nil => cases h
  | append_singleton es e ih =>
    rw [after_concat] at h
    rcases arms_or_keeps (sound_after templates es) e id with ⟨harms, hallowed⟩ | ⟨hnot, hkeeps⟩
    · exact ⟨es, e, [], rfl, ArmedAt.of_arms harms hallowed⟩
    · obtain ⟨earlier, e', later, rfl, hat⟩ := ih (hkeeps.armed h)
      exact ⟨earlier, e', later ++ [e], by simp, hat.concat hnot hkeeps h⟩

/-! ### Execution -/

/-- A bundle was admitted by an event of the run, with the trigger and the revision it has. -/
def Admitted (templates : ℕ → Option RerouteTemplate) (es : List (Event P V)) (b : RuleBundle) :
    Prop :=
  ∃ mid b' rest, es = mid ++ .admission b' :: rest ∧
    b.id = (System.after templates mid : System P V).db.nextBundle ∧
    b.trigger = b'.trigger ∧ b.ruleId = b'.ruleId ∧ b.actionsRevision = b'.actionsRevision

theorem Admitted.concat {es : List (Event P V)} {b : RuleBundle} (h : Admitted templates es b)
    (e : Event P V) :
    Admitted templates (es ++ [e]) b := by
  obtain ⟨mid, b', rest, rfl, hb⟩ := h
  exact ⟨mid, b', rest ++ [e], by simp, hb⟩

end Runs

theorem bundles_insertDrafts {ruleId : ℕ} (drafts : List (ActionDraft P)) (position : ℕ)
    (db : RuleDb P V) :
    (insertDrafts ruleId position drafts db).bundles = db.bundles := by
  induction drafts generalizing position db with
  | nil => rfl
  | cons d drafts ih => exact ih (position + 1) _

theorem bundles_addAction {inv : Inventory P} {ruleId : ℕ} {body : RuleActionBody P}
    (h : addAction db inv ruleId body = .ok db') : db'.bundles = db.bundles := by
  unfold addAction at h
  split at h
  · cases h
  · cases h
  · simp only [unprocessable, ensure_bind_eq_ok] at h
    obtain ⟨-, -, -, h⟩ := h
    obtain ⟨⟨autoTarget, params⟩, -, h⟩ := bind_eq_ok.mp h
    obtain ⟨-, h⟩ := ensure_bind_eq_ok.mp h
    obtain ⟨flow, -, h⟩ := bind_eq_ok.mp h
    obtain rfl := Except.ok.inj h
    rfl

/-- What an event makes of the bundles: another one is admitted, or one of them is settled, which
writes neither its rule nor its revision. -/
theorem bundles_apply (h : s.apply e = .ok t) :
    t.db.bundles = s.db.bundles ∨
      (∃ b, e = .admission b ∧ t.db.bundles = s.db.bundles ++ [{ b with id := s.db.nextBundle }]) ∨
      ∃ bundle state lifecycle remaining, t.db.bundles =
        Table.update (fun b : RuleBundle => b.id = bundle)
          (fun b => { b with state, lifecycle, remaining })
          s.db.bundles := by
  cases e with
  | create inv cfg body =>
    cases hr : create s.db inv cfg body with
    | error x =>
      rw [System.apply, hr] at h
      cases h
    | ok db =>
      rw [System.apply, hr] at h
      obtain rfl := Except.ok.inj h
      obtain ⟨deviceId, -, hr⟩ := bind_eq_ok.mp hr
      obtain ⟨-, hr⟩ := ensure_bind_eq_ok.mp hr
      obtain rfl := Except.ok.inj hr
      exact Or.inl rfl
  | update id' body =>
    obtain ⟨-, db, hr, rfl⟩ := fenced_eq_ok h
    obtain ⟨existing, -, -, rfl⟩ := update_eq_ok hr
    exact Or.inl rfl
  | addAction inv ruleId body =>
    obtain ⟨-, db, hr, rfl⟩ := fenced_eq_ok h
    exact Or.inl (bundles_addAction hr)
  | removeAction ruleId actionId =>
    obtain ⟨-, db, hr, rfl⟩ := fenced_eq_ok h
    obtain ⟨flow, -, hr⟩ := bind_eq_ok.mp hr
    obtain ⟨-, hr⟩ := ensure_bind_eq_ok.mp hr
    obtain rfl := Except.ok.inj hr
    exact Or.inl rfl
  | replaceActions inv ruleId body =>
    obtain ⟨-, db, hr, rfl⟩ := fenced_eq_ok h
    obtain ⟨actions, -, -, rfl⟩ := replaceActions_eq_ok hr
    exact Or.inl (bundles_insertDrafts actions 0 _)
  | reorderActions ruleId order =>
    obtain ⟨-, db, hr, rfl⟩ := fenced_eq_ok h
    simp only [reorderActions, unprocessable, ensure_bind_eq_ok] at hr
    obtain ⟨-, -, -, hr⟩ := hr
    obtain ⟨flow, -, hr⟩ := bind_eq_ok.mp hr
    obtain rfl := Except.ok.inj hr
    exact Or.inl rfl
  | recordDrift a reason =>
    obtain ⟨-, db, hr, rfl⟩ := fenced_eq_ok h
    obtain rfl := Except.ok.inj hr
    unfold recordDrift
    split <;> exact Or.inl rfl
  | clearDrift a =>
    obtain ⟨-, db, hr, rfl⟩ := fenced_eq_ok h
    obtain rfl := Except.ok.inj hr
    unfold clearDrift
    split <;> exact Or.inl rfl
  | setState ruleId state =>
    obtain rfl := Except.ok.inj h
    exact Or.inl rfl
  | admission b =>
    obtain rfl := Except.ok.inj h
    exact Or.inr (Or.inl ⟨b, rfl, rfl⟩)
  | settle bundle state lifecycle remaining =>
    obtain rfl := Except.ok.inj h
    exact Or.inr (Or.inr ⟨bundle, state, lifecycle, remaining, rfl⟩)
  | execute bundle gates =>
    unfold System.apply at h
    dsimp only at h
    split at h
    · cases h
    · obtain rfl := Except.ok.inj h
      exact Or.inl rfl
  | executed =>
    obtain rfl := Except.ok.inj h
    exact Or.inl rfl

/-- **Every bundle was admitted**, with the trigger, the rule and the revision it has. -/
theorem admitted_after (templates : ℕ → Option RerouteTemplate) (es : List (Event P V)) :
    ∀ b ∈ (System.after templates es : System P V).db.bundles, Admitted templates es b := by
  induction es using List.reverseRecOn with
  | nil => nofun
  | append_singleton es e ih =>
    rw [after_concat]
    cases happly : (System.after templates es).apply e with
    | error x =>
      rw [step_of_error happly]
      exact fun b hb => (ih b hb).concat e
    | ok t =>
      rw [step_of_ok happly]
      intro b hb
      rcases bundles_apply happly with
        heq | ⟨b', rfl, heq⟩ | ⟨bundle, state, lifecycle, remaining, heq⟩
      · exact (ih b (heq ▸ hb)).concat e
      · rw [heq] at hb
        rcases List.mem_append.mp hb with hold | hnew
        · exact (ih b hold).concat _
        · obtain rfl := List.mem_singleton.mp hnew
          exact ⟨es, b', [], rfl, rfl, rfl, rfl, rfl⟩
      · rw [heq] at hb
        obtain ⟨a, ha, rfl⟩ := Table.mem_update.mp hb
        obtain ⟨mid, b', rest, hes, hid, htrigger, hrule, hrevision⟩ := (ih a ha).concat e
        refine ⟨mid, b', rest, hes, ?_⟩
        split <;> exact ⟨hid, htrigger, hrule, hrevision⟩

/-- **An action of an automatic bundle is on its way**, and the rule has the revision of the
bundle. -/
def Executing (s : System P V) (bundle : ℕ) : Prop :=
  ∃ b ruleId r, Table.find RuleBundle.id bundle s.db.bundles = some b ∧ b.trigger = .automatic ∧
    b.ruleId = some ruleId ∧ s.db.rules ruleId = some r ∧ b.actionsRevision = some r.actionsRevision

theorem executing_of_authorised {bundle : ℕ} (h : authorised s.db bundle = true) :
    Executing s bundle := by
  obtain ⟨b, hb, h⟩ := (Option.any_eq_true ..).mp h
  obtain ⟨htrigger, h⟩ := Bool.and_eq_true_iff.mp h
  obtain ⟨ruleId, hrule, h⟩ := (Option.any_eq_true ..).mp h
  obtain ⟨-, h⟩ := Bool.and_eq_true_iff.mp h
  obtain ⟨r, hr, h⟩ := (Option.any_eq_true ..).mp h
  obtain ⟨-, hrevision⟩ := Bool.and_eq_true_iff.mp h
  exact ⟨b, ruleId, r, hb, of_decide_eq_true (Bool.and_eq_true_iff.mp htrigger).1, hrule, hr,
    of_decide_eq_true hrevision⟩

/-- What leaves the rules alone that there are, and the bundles but for how far they are. -/
theorem Executing.mono {bundle : ℕ} (h : Executing s bundle)
    (hrules : ∀ id r, s.db.rules id = some r → t.db.rules id = some r)
    (hbundles : ∀ b, Table.find RuleBundle.id bundle s.db.bundles = some b →
      ∃ b', Table.find RuleBundle.id bundle t.db.bundles = some b' ∧ b'.trigger = b.trigger ∧
        b'.ruleId = b.ruleId ∧
        b'.actionsRevision = b.actionsRevision) : Executing t bundle := by
  obtain ⟨b, ruleId, r, hb, htrigger, hrule, hr, hrevision⟩ := h
  obtain ⟨b', hb', htrigger', hrule', hrevision'⟩ := hbundles b hb
  exact ⟨b', ruleId, r, hb', htrigger'.trans htrigger, hrule'.trans hrule, hrules ruleId r hr,
    hrevision'.trans hrevision⟩

/-- While an action is on its way, no request gives the rule another revision. -/
theorem executing_apply (hs : Sound s.db)
    (hexecuting : ∀ bundle, s.executing = some bundle → Executing s bundle)
    (h : s.apply e = .ok t) : ∀ bundle, t.executing = some bundle → Executing t bundle := by
  have hfenced : ∀ {r : Except Refusal (RuleDb P V)}, s.fenced r = .ok t →
      ∀ bundle, t.executing = some bundle →
      Executing t bundle := by
    intro r hr bundle hbundle
    obtain ⟨hfree, db, -, rfl⟩ := fenced_eq_ok hr
    rw [hfree] at hbundle
    cases hbundle
  cases e with
  | create inv cfg body =>
    cases hr : create s.db inv cfg body with
    | error x =>
      rw [System.apply, hr] at h
      cases h
    | ok db =>
      rw [System.apply, hr] at h
      obtain rfl := Except.ok.inj h
      obtain ⟨deviceId, -, hr⟩ := bind_eq_ok.mp hr
      obtain ⟨-, hr⟩ := ensure_bind_eq_ok.mp hr
      obtain rfl := Except.ok.inj hr
      intro bundle hbundle
      refine (hexecuting bundle hbundle).mono (fun id r hid => ?_) fun b hb =>
        ⟨b, hb, rfl, rfl, rfl⟩
      exact (Function.update_of_ne (Nat.ne_of_lt (hs.lt_nextRule hid)) ..).trans hid
  | update _ _ => exact hfenced h
  | addAction _ _ _ => exact hfenced h
  | removeAction _ _ => exact hfenced h
  | replaceActions _ _ _ => exact hfenced h
  | reorderActions _ _ => exact hfenced h
  | recordDrift _ _ => exact hfenced h
  | clearDrift _ => exact hfenced h
  | setState ruleId state =>
    obtain rfl := Except.ok.inj h
    exact fun bundle hbundle => (hexecuting bundle hbundle).mono (fun _ _ hid => hid) fun b hb =>
      ⟨b, hb, rfl, rfl, rfl⟩
  | admission b =>
    obtain rfl := Except.ok.inj h
    intro bundle hbundle
    refine (hexecuting bundle hbundle).mono (fun _ _ hid => hid) fun a ha => ⟨a, ?_, rfl, rfl, rfl⟩
    unfold Table.find at ha ⊢
    dsimp only
    rw [List.find?_append, ha, Option.some_or]
  | settle bundle' state lifecycle remaining =>
    obtain rfl := Except.ok.inj h
    intro bundle hbundle
    refine (hexecuting bundle hbundle).mono (fun _ _ hid => hid) fun a ha => ?_
    have hfind : Table.find RuleBundle.id bundle (s.db.bundles.map fun b : RuleBundle =>
        if decide (b.id = bundle') then { b with state, lifecycle, remaining } else b) = _ :=
      Table.find_map fun b => by split <;> rfl
    rw [ha, Option.map_some] at hfind
    refine ⟨_, hfind, ?_, ?_, ?_⟩ <;> split <;> rfl
  | execute bundle gates =>
    unfold System.apply at h
    dsimp only at h
    split at h
    · cases h
    · rename_i hopen
      obtain rfl := Except.ok.inj h
      rintro _ ⟨rfl⟩
      simp only [Bool.or_eq_true, Bool.not_eq_true', not_or, Bool.not_eq_false] at hopen
      exact executing_of_authorised (s := s) hopen.2
  | executed =>
    obtain rfl := Except.ok.inj h
    nofun

theorem executing_after (templates : ℕ → Option RerouteTemplate) (es : List (Event P V)) :
    ∀ bundle, (System.after templates es : System P V).executing = some bundle →
      Executing (System.after templates es : System P V) bundle := by
  induction es using List.reverseRecOn with
  | nil => nofun
  | append_singleton es e ih =>
    rw [after_concat]
    exact step_induction
      (q := fun s : System P V => ∀ bundle, s.executing = some bundle → Executing s bundle) ih
      fun _ => executing_apply (sound_after templates es) ih

/-- **An armed rule runs what its operator armed.** Whenever a rule is armed, an operator armed it
last when all of its actions were allowed, and neither its condition nor its actions were written
since. Whenever an action of an automatic bundle is on its way, the rule has the revision that the
bundle was admitted with. -/
theorem armed_runs_what_was_armed (templates : ℕ → Option RerouteTemplate) (es : List (Event P V)) :
    (∀ id, (System.after templates es).db.armed id = true →
      ∃ earlier e later, es = earlier ++ e :: later ∧ ArmedAt templates earlier e later id) ∧
    ∀ bundle, (System.after templates es).executing = some bundle →
      ∃ mid b rest ruleId r, es = mid ++ .admission b :: rest ∧
        bundle = (System.after templates mid : System P V).db.nextBundle ∧ b.trigger = .automatic ∧
        b.ruleId = some ruleId ∧ (System.after templates es).db.rules ruleId = some r ∧
        b.actionsRevision = some r.actionsRevision := by
  refine ⟨fun id => armed_since es id, fun bundle hbundle => ?_⟩
  obtain ⟨b, ruleId, r, hb, htrigger, hrule, hr, hrevision⟩ :=
    executing_after templates es bundle hbundle
  obtain ⟨hmem, hid⟩ := Table.mem_of_find hb
  obtain ⟨mid, b', rest, hes, hnext, htrigger', hrule', hrevision'⟩ :=
    admitted_after templates es b hmem
  exact ⟨mid, b', rest, ruleId, r, hes, hid ▸ hnext, htrigger' ▸ htrigger, hrule' ▸ hrule, hr,
    hrevision' ▸ hrevision⟩

end Rerouter.Arming
