import Rerouter.InventoryChecks

/-!
# The audit after a discovery run

`reroute/inventory_audit.rs`. When a run has proved the configuration of a router, the actions on it
are checked once more against what the run stored, and a rule with an action that is refused is
disarmed. Only drift should do that: what a parameter names is gone from the router.

The checks refuse for other reasons as well, and a verdict does not tell them apart
(`Rerouter.Drift.exists_drifted_iff`).

* `Rerouter.Drift.MissingAction`: the run did not find what a parameter names.
* `Rerouter.Drift.ObstructedAction`: SNMP has not answered for a day, a tag is not catalogued, the
  inventory of policies is partial, or the parameters do not fit the schema.

The last of these is an action whose target is put in when it runs: it is stored without a network,
and its schema asks for one (`Rerouter.Drift.obstructed_of_autoTarget`). So every audit refuses it,
and its rule cannot stay armed (`Rerouter.Drift.audit_of_autoTarget`). When the audit does go by
what the run found is said by `Rerouter.Drift.audit_iff`.
-/

namespace Rerouter.Drift

open Text Arming

/-! ### The audit -/

/-- `Verdict`. -/
inductive Verdict where
  | valid
  | drifted (reason : Text)
  | indeterminate
deriving DecidableEq

/-- `REASON_MAX`. -/
def reasonMax : ℕ := 500

/-- `clip`: as many characters as there is room for. -/
def clip : ℕ → Text → Text
  | _, [] => []
  | max, c :: s => if c.utf8Size ≤ max then c :: clip (max - c.utf8Size) s else []

/-- A discovery run of a device, and what the audit behind it finds. -/
structure Audit (κ : Type) where
  fold : Text → κ
  now : ℕ
  device : ℕ
  /-- The tables before the run. -/
  before : Inventories
  found : Findings
  templates : ℕ → Option Template
  /-- Nothing is in flight on the device. -/
  quiet : Bool
  /-- The actions at which the database fails. -/
  fails : ℕ → Bool

section Audit

variable {κ V : Type} [DecidableEq κ] (x : Audit κ)

namespace Audit

/-- The tables after the run. -/
def tables : Inventories := storeRun x.fold x.now x.found x.before

/-- `verdict`, of an action with its template. -/
def checkAction (t : Template) (params : Params) : Verdict :=
  match canonicalizeInventoryParams x.fold x.now x.device x.tables t params with
  | .error reason => .drifted reason
  | .ok canonical =>
    match prefixTargetIsContained x.now x.tables t canonical with
    | .error reason => .drifted reason
    | .ok true => .valid
    | .ok false => .drifted "prefix target is outside the device's announced space"

/-- `verdict`. -/
def verdict (a : RuleAction Params) : Verdict :=
  match x.templates a.rerouteTemplateId with
  | none => .indeterminate
  | some t => if x.fails a.id then .indeterminate else checkAction x t a.params

/-- The reason a rule is disarmed for. -/
def disarmReason (a : RuleAction Params) (reason : Text) : Text :=
  clip reasonMax ("routing inventory drift on action #".toList ++ natText a.id ++ ": " ++
      clip reasonMax reason)

/-- One action, unless its rule matches or fires. -/
def auditAction (db : RuleDb Params V) (a : RuleAction Params) : RuleDb Params V :=
  if (db.states a.ruleId).any fun state => state ≠ "clear".toList then db
  else
    match x.verdict a with
    | .valid => clearDrift db ⟨a.id, a.ruleId, a.inventoryState⟩
    | .drifted reason => recordDrift db ⟨a.id, a.ruleId, a.inventoryState⟩ (disarmReason a reason)
    | .indeterminate => db

/-- The enabled actions on the device, in the order of their ids. -/
def actionRows (db : RuleDb Params V) : List (RuleAction Params) :=
  (db.actions.filter fun a => decide (a.deviceId = x.device) && a.enabled &&
      (db.rules a.ruleId).isSome).insertionSort
    fun a b => a.id ≤ b.id

/-- The actions that are looked at: none unless the run was conclusive and the device is quiet. -/
def looked (db : RuleDb Params V) : List (RuleAction Params) :=
  if x.found.read = .conclusive ∧ x.quiet = true then x.actionRows db else []

/-- `audit_device`. -/
def auditDevice (db : RuleDb Params V) : RuleDb Params V := (x.looked db).foldl x.auditAction db

end Audit

end Audit

/-! ### What the audit should go by -/

section Predicates

variable {κ V : Type} [DecidableEq κ] (x : Audit κ)

/-- **A parameter of an action names what the run did not find.** -/
def MissingAction (a : RuleAction Params) : Prop :=
  ∃ t snapshot inventory, x.templates a.rerouteTemplateId = some t ∧
      x.found.routeContext = .ok (snapshot, inventory) ∧
    Missing x.fold x.now x.found.prefixes snapshot inventory x.before t a.params

/-- **An action is refused, and not because the run did not find something.** -/
def ObstructedAction (a : RuleAction Params) : Prop :=
  ∃ t snapshot inventory, x.templates a.rerouteTemplateId = some t ∧
      x.found.routeContext = .ok (snapshot, inventory) ∧
    Obstructed x.fold x.now snapshot inventory x.before t a.params

/-- What was refused, and not for a failure of the database. -/
def Refused (a : RuleAction Params) : Prop :=
  x.fails a.id = false ∧ (MissingAction x a ∨ ObstructedAction x a)

/-- The rule of an action neither matches nor fires. -/
def Clear (db : RuleDb Params V) (a : RuleAction Params) : Prop :=
  ∀ state, db.states a.ruleId = some state → state = "clear".toList

/-- A rule is armed. -/
def Armed (db : RuleDb Params V) (id : ℕ) : Prop :=
  ∃ r, db.rules id = some r ∧ r.automaticRerouteEnabled = true

/-- The inventory that a request reads of the tables. -/
def inventoryOf (now : ℕ) (inv : Inventories) (base : Inventory Params) : Inventory Params :=
  { base with
    canonicalize := fun device template params =>
      match x.templates template with
      | some t => canonicalizeInventoryParams x.fold now device inv t params
      | none => .error "template not found"
    probe := fun params => params.insert prefixParam (.string "192.0.2.1/32")
    withoutPrefix := fun params => params.erase prefixParam }

/-- The columns that say what a router has, without the times at which it was asked. -/
structure SameRouter (inv : Inventories) : Prop where
  /-- An earlier run found the same. -/
  found : ∃ before now snapshot inventory, x.found.routeContext = .ok (snapshot, inventory) ∧
    Stored x.fold now x.found.prefixes snapshot inventory before inv
  interfaces : inv.interfaces.map (fun r => (r.ifName, r.ifDescr)) =
    x.before.interfaces.map fun r => (r.ifName, r.ifDescr)
  peers : inv.peers.map (fun p => (p.peerRemoteAddr, p.localAs)) = x.before.peers.map fun p =>
    (p.peerRemoteAddr, p.localAs)

/-- **An action is as `add_action` accepted it**, over the router as it still is. -/
def Accepted (a : RuleAction Params) : Prop :=
  ∃ (inv : Inventories) (now : ℕ) (base : Inventory Params) (rule : RuleRow V) (t : Template)
    (template : RerouteTemplate) (body : RuleActionBody Params),
    SameRouter x inv ∧ x.templates a.rerouteTemplateId = some t ∧ template.name = t.name ∧
      body.rerouteTemplateId = a.rerouteTemplateId ∧ body.deviceId = x.device ∧
      a.deviceId = x.device ∧
        addedParams (inventoryOf x now inv base) rule template body = .ok (a.autoTarget, a.params)

/-- **A rule is disarmed for drift only**: at each action that disarms its rule, the run proved the
configuration and a parameter of the action names what the run did not find. -/
def DisarmsForDrift (db : RuleDb Params V) : Prop :=
  ∀ front a rest, x.looked db = front ++ a :: rest → ∀ id, Armed (front.foldl x.auditAction db) id →
    ¬Armed ((front ++ [a]).foldl x.auditAction db) id → x.found.read = .conclusive ∧
    MissingAction x a

/-- **What was accepted is never marked.** -/
def KeepsAccepted (db : RuleDb Params V) : Prop :=
  ∀ a ∈ db.actions, a.inventoryState = .ok → Accepted (V := V) x a →
    ∀ b ∈ (x.auditDevice db).actions, b.id = a.id → b.inventoryState = .ok

/-- Of the actions of an armed rule the first one that is refused is missing. What was accepted has
no target that is put in later, names nothing that is missing, and nothing else is in its way. -/
structure RefusesDrift (db : RuleDb Params V) : Prop where
  first : ∀ front a rest, x.looked db = front ++ a :: rest → Clear db a → Refused x a →
    Armed db a.ruleId →
    (∀ b ∈ front, b.ruleId = a.ruleId → ¬Refused x b) → MissingAction x a
  accepted : ∀ a ∈ x.looked db, Clear db a → x.fails a.id = false → a.inventoryState = .ok →
    Accepted (V := V) x a →
    a.autoTarget = none ∧ ¬MissingAction x a ∧ ¬ObstructedAction x a

end Predicates

/-! ### What a verdict says -/

section Verdicts

variable {κ V : Type} [DecidableEq κ] {x : Audit κ} {db : RuleDb Params V} {a : RuleAction Params}

theorem conclusive_iff {f : Findings} : f.read = .conclusive ↔ f.announcedPrefixesProven = true ∧
    ∃ snapshot inventory, f.routeContext = .ok (snapshot, inventory) := by
  unfold Findings.read
  split
  · rename_i hproven hcontext
    exact ⟨fun _ => ⟨hproven, _, _, hcontext⟩, fun _ => rfl⟩
  · rename_i hproven
    exact ⟨nofun, fun h => by rw [h.1] at hproven; cases hproven⟩
  · rename_i hproven hcontext
    refine ⟨nofun, fun h => ?_⟩
    obtain ⟨-, snapshot, inventory, hok⟩ := h
    rw [hcontext] at hok
    cases hok

theorem checkAction_eq_valid {t : Template} {params : Params} : x.checkAction t params = .valid ↔
    ∃ c, canonicalizeInventoryParams x.fold x.now x.device x.tables t params = .ok c ∧
      prefixTargetIsContained x.now x.tables t c = .ok true := by
  unfold Audit.checkAction
  cases hc : canonicalizeInventoryParams x.fold x.now x.device x.tables t params with
  | error reason => exact ⟨nofun, fun ⟨c, h, _⟩ => by cases h⟩
  | ok c =>
    dsimp only
    cases hp : prefixTargetIsContained x.now x.tables t c with
    | error reason => exact ⟨nofun, fun ⟨c', h, h'⟩ => by cases h; rw [hp] at h'; cases h'⟩
    | ok held =>
      cases held
      · exact ⟨nofun, fun ⟨c', h, h'⟩ => by cases h; rw [hp] at h'; cases h'⟩
      · exact ⟨fun _ => ⟨c, rfl, hp⟩, fun _ => rfl⟩

theorem checkAction_ne_indeterminate {t : Template} {params : Params} :
    x.checkAction t params ≠ .indeterminate := by
  unfold Audit.checkAction
  split
  · nofun
  · split <;> nofun

/-- **A verdict is drift for two kinds of reasons.** -/
theorem exists_drifted_iff (hcatalogue : ∀ id t, x.templates id = some t → t ∈ catalogue)
    (hread : x.found.read = .conclusive) : (∃ reason, x.verdict a = .drifted reason) ↔
    Refused x a := by
  obtain ⟨-, snapshot, inventory, hcontext⟩ := conclusive_iff.mp hread
  unfold Audit.verdict Refused
  cases htemplate : x.templates a.rerouteTemplateId with
  | none =>
    -- a template that is gone is no drift
    refine ⟨nofun, fun h => ?_⟩
    rcases h.2 with ⟨t, _, _, ht, -⟩ | ⟨t, _, _, ht, -⟩
    · rw [htemplate] at ht
      cases ht
    · rw [htemplate] at ht
      cases ht
  | some t =>
    dsimp only
    cases hfails : x.fails a.id with
    | true => exact ⟨nofun, fun h => by cases h.1⟩
    | false =>
      have hstored : Stored x.fold x.now x.found.prefixes snapshot inventory x.before x.tables :=
        stored_storeRun hcontext
      have hvalid : x.checkAction t a.params = .valid ↔
          ¬Missing x.fold x.now x.found.prefixes snapshot inventory x.before t a.params ∧
            ¬Obstructed x.fold x.now snapshot inventory x.before t a.params :=
        checkAction_eq_valid.trans (checks_iff hstored (hcatalogue _ t htemplate))
      -- over a conclusive read the check answers valid or drifted, never indeterminate
      have hdrifted : (∃ reason, x.checkAction t a.params = .drifted reason) ↔
        x.checkAction t a.params ≠ .valid := by
        cases hcheck : x.checkAction t a.params with
        | valid => exact ⟨nofun, fun h => absurd rfl h⟩
        | drifted reason => exact ⟨nofun, fun _ => ⟨reason, rfl⟩⟩
        | indeterminate => exact absurd hcheck checkAction_ne_indeterminate
      have hmissing : MissingAction x a ↔
        Missing x.fold x.now x.found.prefixes snapshot inventory x.before t a.params := by
        constructor
        · rintro ⟨t', snapshot', inventory', ht, hok, h⟩
          cases htemplate.symm.trans ht
          cases hcontext.symm.trans hok
          exact h
        · exact fun h => ⟨t, snapshot, inventory, htemplate, hcontext, h⟩
      have hobstructed : ObstructedAction x a ↔
        Obstructed x.fold x.now snapshot inventory x.before t a.params := by
        constructor
        · rintro ⟨t', snapshot', inventory', ht, hok, h⟩
          cases htemplate.symm.trans ht
          cases hcontext.symm.trans hok
          exact h
        · exact fun h => ⟨t, snapshot, inventory, htemplate, hcontext, h⟩
      rw [if_neg Bool.false_ne_true, hdrifted, Ne, hvalid, hmissing, hobstructed, not_and_or,
        not_not, not_not]
      exact (and_iff_right rfl).symm

end Verdicts

/-! ### What the audit writes -/

section Writes

variable {κ V : Type} [DecidableEq κ] {x : Audit κ} {db : RuleDb Params V} {a : RuleAction Params}
  {l : List (RuleAction Params)} {id : ℕ}

theorem not_clear_iff :
    ((db.states a.ruleId).any fun state => state ≠ "clear".toList) = true ↔ ¬Clear db a := by
  rw [Option.any_eq_true, Clear]
  constructor
  · rintro ⟨state, hstate, hne⟩ h
    exact of_decide_eq_true hne (h state hstate)
  · intro h
    by_contra hnone
    refine h fun state hstate => ?_
    by_contra hne
    exact hnone ⟨state, hstate, decide_eq_true hne⟩

/-- What happens to the tables at one action. -/
inductive Audited (x : Audit κ) (db : RuleDb Params V) (a : RuleAction Params) :
    RuleDb Params V → Prop
  | drifted (reason : Text) (hclear : Clear db a) (h : Refused x a) :
    Audited x db a (recordDrift db ⟨a.id, a.ruleId, a.inventoryState⟩ reason)
  | valid (h : ¬Refused x a) : Audited x db a (clearDrift db ⟨a.id, a.ruleId, a.inventoryState⟩)
  | kept (h : ¬(Clear db a ∧ Refused x a)) : Audited x db a db

theorem audited (hcatalogue : ∀ id t, x.templates id = some t → t ∈ catalogue)
    (hread : x.found.read = .conclusive) :
    Audited x db a (x.auditAction db a) := by
  have hrefused := exists_drifted_iff (a := a) hcatalogue hread
  unfold Audit.auditAction
  split
  · rename_i hstate
    exact .kept fun h => not_clear_iff.mp hstate h.1
  · rename_i hstate
    have hclear : Clear db a := not_not.mp fun h => hstate (not_clear_iff.mpr h)
    cases hverdict : x.verdict a with
    | valid =>
      refine .valid fun h => ?_
      obtain ⟨reason, hreason⟩ := hrefused.mpr h
      rw [hverdict] at hreason
      cases hreason
    | drifted reason => exact .drifted _ hclear (hrefused.mp ⟨reason, hverdict⟩)
    | indeterminate =>
      refine .kept fun h => ?_
      obtain ⟨reason, hreason⟩ := hrefused.mpr h.2
      rw [hverdict] at hreason
      cases hreason

theorem recordDrift_of_clear (hclear : Clear db a) {s : InventoryState} {reason : Text} :
    (recordDrift db ⟨a.id, a.ruleId, s⟩ reason).actions =
        Table.update (fun b => b.id = a.id)
          (fun b => { b with inventoryState := .drifted }) db.actions ∧
      (recordDrift db ⟨a.id, a.ruleId, s⟩ reason).rules =
        Function.update db.rules a.ruleId ((db.rules a.ruleId).map fun r =>
          if r.automaticRerouteEnabled then
            { r with automaticRerouteEnabled := false, autoDisarmedReason := some reason }
          else r) := by
  rw [recordDrift, if_neg fun h => not_clear_iff.mp h hclear]
  exact ⟨rfl, rfl⟩

theorem rules_clearDrift (b : AuditedAction) : (clearDrift db b).rules = db.rules := by
  unfold clearDrift
  split <;> rfl

theorem states_recordDrift (b : AuditedAction) (reason : Text) :
    (recordDrift db b reason).states = db.states := by
  unfold recordDrift
  split <;> rfl

theorem states_clearDrift (b : AuditedAction) : (clearDrift db b).states = db.states := by
  unfold clearDrift
  split <;> rfl

/-- The states of the rules stay, so the actions that are looked at are clear or not from the
start. -/
theorem Audited.states {t : RuleDb Params V} (h : Audited x db a t) : t.states = db.states := by
  cases h with
  | drifted reason hclear h => exact states_recordDrift _ _
  | valid h => exact states_clearDrift _
  | kept h => rfl

/-- **A rule is disarmed at an action of its own that is refused**, and at no other. -/
theorem Audited.armed_iff {t : RuleDb Params V} (h : Audited x db a t) :
    Armed t id ↔ Armed db id ∧ (a.ruleId = id → Clear db a → ¬Refused x a) := by
  cases h with
  | drifted reason hclear h =>
    unfold Armed
    rw [(recordDrift_of_clear hclear).2]
    by_cases hid : a.ruleId = id
    · subst hid
      refine ⟨fun harmed => ?_, fun harmed => absurd h (harmed.2 rfl hclear)⟩
      obtain ⟨r, hr, harmed⟩ := harmed
      rw [Function.update_self] at hr
      obtain ⟨old, -, rfl⟩ := Option.map_eq_some_iff.mp hr
      split at harmed
      · cases harmed
      · rename_i hoff
        exact absurd harmed hoff
    · rw [Function.update_of_ne fun heq => hid heq.symm]
      exact (and_iff_left fun heq => absurd heq hid).symm
  | valid h =>
    unfold Armed
    rw [rules_clearDrift]
    exact (and_iff_left fun _ _ => h).symm
  | kept h => exact (and_iff_left fun _ hclear hrefused => h ⟨hclear, hrefused⟩).symm

theorem armed_foldl (hcatalogue : ∀ id t, x.templates id = some t → t ∈ catalogue)
    (hread : x.found.read = .conclusive) : Armed (l.foldl x.auditAction db) id ↔
      Armed db id ∧ ∀ a ∈ l, a.ruleId = id → Clear db a → ¬Refused x a := by
  induction l generalizing db with
  | nil => exact (and_iff_left fun _ h => absurd h List.not_mem_nil).symm
  | cons a l ih =>
    have hone : Audited x db a (x.auditAction db a) := audited hcatalogue hread
    have hclear : ∀ b, Clear (x.auditAction db a) b ↔ Clear db b :=
      fun b => by rw [Clear, Clear, hone.states]
    rw [List.foldl_cons, ih, hone.armed_iff, List.forall_mem_cons, and_assoc]
    simp only [hclear]

/-- What some actions of an audit make of a row. -/
structure Marks (x : Audit κ) (db : RuleDb Params V) (l : List (RuleAction Params))
    (b b' : RuleAction Params) : Prop where
  id : b'.id = b.id
  marked : b'.inventoryState = .drifted →
    b.inventoryState = .drifted ∨ ∃ a ∈ l, a.id = b.id ∧ Clear db a ∧ Refused x a
  marks : ∀ a ∈ l, a.id = b.id → Clear db a → Refused x a → b'.inventoryState = .drifted
  kept : (∀ a ∈ l, a.id ≠ b.id) → b'.inventoryState = b.inventoryState

theorem marks_nil (b : RuleAction Params) : Marks x db [] b b :=
  ⟨rfl, Or.inl, fun _ h => absurd h List.not_mem_nil, fun _ => rfl⟩

/-- A row stays as it is where nothing is refused. -/
theorem marks_refl (h : ¬(Clear db a ∧ Refused x a)) (b : RuleAction Params) :
    Marks x db [a] b b where
  id := rfl
  marked := Or.inl
  marks c hc _ hclear hrefused := by
    rw [List.mem_singleton.mp hc] at hclear hrefused
    exact absurd ⟨hclear, hrefused⟩ h
  kept _ := rfl

theorem Audited.rewritten {t : RuleDb Params V} (h : Audited x db a t) :
    Table.Rewritten (Marks x db [a]) db.actions t.actions := by
  cases h with
  | drifted reason hclear hrefused =>
    rw [(recordDrift_of_clear hclear).1]
    refine ⟨_, rfl, fun b _ => ?_⟩
    split
    · rename_i hid
      have hid : b.id = a.id := of_decide_eq_true hid
      refine ⟨rfl, fun _ => Or.inr ⟨a, List.mem_singleton_self a, hid.symm, hclear, hrefused⟩,
        fun _ _ _ _ _ => rfl, ?_⟩
      exact fun hnone => absurd hid.symm (hnone a (List.mem_singleton_self a))
    · rename_i hid
      refine ⟨rfl, Or.inl, fun c hc heq _ _ => ?_, fun _ => rfl⟩
      rw [List.mem_singleton.mp hc] at heq
      exact absurd (decide_eq_true heq.symm) hid
  | valid hvalid =>
    have hnot : ¬(Clear db a ∧ Refused x a) := fun hboth => hvalid hboth.2
    unfold clearDrift
    split
    · exact Table.Rewritten.refl (marks_refl hnot) _
    · refine Table.rewritten_update (marks_refl hnot) fun b _ hid => ?_
      have hid : b.id = a.id := of_decide_eq_true hid
      refine ⟨rfl, nofun, fun c hc _ hclear hrefused => ?_, fun hnone => ?_⟩
      · rw [List.mem_singleton.mp hc] at hclear hrefused
        exact absurd ⟨hclear, hrefused⟩ hnot
      · exact absurd hid.symm (hnone a (List.mem_singleton_self a))
  | kept hnot => exact Table.Rewritten.refl (marks_refl hnot) _

theorem Marks.cons {b b' b'' : RuleAction Params} {t : RuleDb Params V}
    (hstates : t.states = db.states)
    (hnew : ∀ c ∈ l, c.id ≠ a.id) (h : Marks x db [a] b b') (h' : Marks x t l b' b'') :
    Marks x db (a :: l) b b'' := by
  have hclear : ∀ c, Clear t c ↔ Clear db c := fun c => by rw [Clear, Clear, hstates]
  refine ⟨h'.id.trans h.id, fun hmarked => ?_, fun c hc heq hc' hrefused => ?_, fun hnone => ?_⟩
  · rcases h'.marked hmarked with hmarked | ⟨c, hc, heq, hc', hrefused⟩
    · refine (h.marked hmarked).imp_right fun ⟨c, hc, hrest⟩ => ⟨c, ?_, hrest⟩
      rw [List.mem_singleton.mp hc]
      exact List.mem_cons_self
    · exact Or.inr ⟨c, List.mem_cons_of_mem a hc, heq.trans h.id, (hclear c).mp hc', hrefused⟩
  · rcases List.mem_cons.mp hc with rfl | hc
    · -- no other action of the list has this id, so the mark stays
      rw [h'.kept fun d hd hid => hnew d hd (hid.trans (h.id.trans heq.symm))]
      exact h.marks c (List.mem_singleton_self c) heq hc' hrefused
    · exact h'.marks c hc (heq.trans h.id.symm) ((hclear c).mpr hc') hrefused
  · rw [h'.kept fun c hc heq => hnone c (List.mem_cons_of_mem a hc) (heq.trans h.id)]
    refine h.kept fun c hc => ?_
    rw [List.mem_singleton.mp hc]
    exact hnone a List.mem_cons_self

theorem rewritten_foldl (hcatalogue : ∀ id t, x.templates id = some t → t ∈ catalogue)
    (hread : x.found.read = .conclusive) (hids : (l.map RuleAction.id).Nodup) :
    Table.Rewritten (Marks x db l) db.actions (l.foldl x.auditAction db).actions := by
  induction l generalizing db with
  | nil => exact Table.Rewritten.refl marks_nil _
  | cons a l ih =>
    have hone : Audited x db a (x.auditAction db a) := audited hcatalogue hread
    obtain ⟨hnot, hids⟩ := List.nodup_cons.mp hids
    have hnew : ∀ c ∈ l, c.id ≠ a.id := fun c hc heq => hnot (List.mem_map.mpr ⟨c, hc, heq⟩)
    exact hone.rewritten.trans (ih hids) fun b b' b'' h h' => h.cons hone.states hnew h'

end Writes

/-! ### When the audit goes by what it found -/

section Looked

variable {κ V : Type} {x : Audit κ} {db : RuleDb Params V} {a : RuleAction Params}

theorem read_of_mem_looked (h : a ∈ x.looked db) : x.found.read = .conclusive := by
  unfold Audit.looked at h
  split at h
  · rename_i hread
    exact hread.1
  · cases h

theorem mem_actions_of_mem_looked (h : a ∈ x.looked db) : a ∈ db.actions := by
  unfold Audit.looked at h
  split at h
  · exact List.mem_of_mem_filter ((List.mem_insertionSort _).mp h)
  · cases h

theorem nodup_looked (hids : Table.Keyed RuleAction.id db.actions) :
    ((x.looked db).map RuleAction.id).Nodup := by
  unfold Audit.looked
  split
  · have hperm := (List.perm_insertionSort (fun a b : RuleAction Params => a.id ≤ b.id)
      (db.actions.filter fun a => decide (a.deviceId = x.device) && a.enabled &&
        (db.rules a.ruleId).isSome)).map RuleAction.id
    rw [Audit.actionRows, hperm.nodup_iff]
    exact hids.sublist (List.filter_sublist.map _)
  · exact List.nodup_nil

end Looked

section Exactly

variable {κ V : Type} [DecidableEq κ] {x : Audit κ} {db : RuleDb Params V} {a : RuleAction Params}

/-- **Rules are disarmed for drift only** where the first action that is refused is always
missing. -/
theorem disarmsForDrift_iff (hcatalogue : ∀ id t, x.templates id = some t → t ∈ catalogue) :
    DisarmsForDrift x db ↔ ∀ front a rest, x.looked db = front ++ a :: rest → Clear db a →
      Refused x a →
      Armed db a.ruleId → (∀ b ∈ front, b.ruleId = a.ruleId → ¬Refused x b) →
        MissingAction x a := by
  constructor
  · intro h front a rest hlooked hclear hrefused harmed hfirst
    have hread : x.found.read = .conclusive := read_of_mem_looked (a := a) (by rw [hlooked]; simp)
    refine (h front a rest hlooked a.ruleId ?_ ?_).2
    · exact (armed_foldl hcatalogue hread).mpr ⟨harmed, fun b hb hrule _ => hfirst b hb hrule⟩
    · rw [armed_foldl hcatalogue hread]
      exact fun hstill => hstill.2 a (List.mem_append_right _ (List.mem_singleton_self a)) rfl
        hclear hrefused
  · intro h front a rest hlooked id harmed hdisarmed
    have hread : x.found.read = .conclusive := read_of_mem_looked (a := a) (by rw [hlooked]; simp)
    obtain ⟨harmed, hfirst⟩ := (armed_foldl hcatalogue hread).mp harmed
    rw [armed_foldl hcatalogue hread, List.forall_mem_append, List.forall_mem_singleton]
      at hdisarmed
    have hhere : ¬(a.ruleId = id → Clear db a → ¬Refused x a) :=
      fun hhere => hdisarmed ⟨harmed, hfirst, hhere⟩
    rw [Classical.not_imp, Classical.not_imp, not_not] at hhere
    obtain ⟨rfl, hclear, hrefused⟩ := hhere
    refine ⟨hread, h front a rest hlooked hclear hrefused harmed fun b hb hrule =>
      hfirst b hb hrule ?_⟩
    rw [Clear, hrule]
    exact hclear

/-- **What was accepted is never marked** where none of it is refused. -/
theorem keepsAccepted_iff (hcatalogue : ∀ id t, x.templates id = some t → t ∈ catalogue)
    (hids : Table.Keyed RuleAction.id db.actions) : KeepsAccepted x db ↔
      ∀ a ∈ x.looked db, Clear db a → Refused x a → a.inventoryState = .ok →
        ¬Accepted (V := V) x a := by
  constructor
  · intro h a ha hclear hrefused hok haccepted
    -- a refused action would be marked in this very pass
    have hrows : Table.Rewritten (Marks x db (x.looked db)) db.actions (x.auditDevice db).actions :=
      rewritten_foldl hcatalogue (read_of_mem_looked ha) (nodup_looked hids)
    obtain ⟨b, hb, hmarks⟩ := hrows.exists_mem (mem_actions_of_mem_looked ha)
    have hstill := h a (mem_actions_of_mem_looked ha) hok haccepted b hb hmarks.id
    rw [hmarks.marks a ha rfl hclear hrefused] at hstill
    cases hstill
  · intro h a ha hok haccepted b hb hid
    by_contra hmarked
    by_cases hlooked : x.looked db = []
    -- no action of the device is looked at: the table is as it was
    · rw [Audit.auditDevice, hlooked] at hb
      rw [hids.eq_of_key_eq hb ha hid] at hmarked
      exact hmarked hok
    -- one is looked at, so the discovery was conclusive and every mark has its reason
    · obtain ⟨c, hc⟩ := List.exists_mem_of_ne_nil _ hlooked
      have hrows : Table.Rewritten (Marks x db (x.looked db)) db.actions
        (x.auditDevice db).actions :=
        rewritten_foldl hcatalogue (read_of_mem_looked hc) (nodup_looked hids)
      obtain ⟨b', hb', hmarks⟩ := hrows.exists_of_mem hb
      obtain rfl : b' = a := hids.eq_of_key_eq hb' ha (hmarks.id.symm.trans hid)
      have hdrifted : b.inventoryState = .drifted := by
        cases hstate : b.inventoryState with
        | ok => exact absurd hstate hmarked
        | drifted => rfl
      rcases hmarks.marked hdrifted with hbefore | ⟨d, hd, heq, hclear, hrefused⟩
      · rw [hok] at hbefore
        cases hbefore
      · obtain rfl : d = b' := hids.eq_of_key_eq (mem_actions_of_mem_looked hd) ha heq
        exact h d hd hclear hrefused hok haccepted

theorem prefix_mem_schema : ∀ t ∈ catalogue, templateSupportsAutoTarget t.name = true →
    (prefixParam, destinationV4) ∈ t.schema := by
  decide +kernel

/-- A network that is required has to be given. -/
theorem expandParam_destination (params : Params) (h : params[prefixParam]? = none)
    {here : List (Text × Text)} :
    expandParam prefixParam destinationV4 params[prefixParam]? ≠ .ok here := by
  rw [h]
  exact nofun

theorem of_unprocessable {c : Bool} {message : Text} (h : unprocessable c message = .ok ()) :
    c = true := by
  unfold unprocessable ensure at h
  split at h
  · assumption
  · cases h

/-- What is stored of an action whose target is put in later. -/
theorem addedParams_autoTarget {inv : Inventories} {now : ℕ} {base : Inventory Params}
    {rule : RuleRow V}
    {template : RerouteTemplate} {body : RuleActionBody Params} {target : Option Text}
    {params : Params}
    (h : addedParams (inventoryOf x now inv base) rule template body = .ok (target, params))
    (htarget : target ≠ none) :
    templateSupportsAutoTarget template.name = true ∧ params[prefixParam]? = none := by
  unfold addedParams at h
  split at h
  · obtain ⟨canonical, -, h⟩ := bind_eq_ok.mp h
    cases h
    exact absurd rfl htarget
  · split at h
    · obtain ⟨-, -, h⟩ := bind_eq_ok.mp h
      obtain ⟨⟨⟩, hsupports, h⟩ := bind_eq_ok.mp h
      obtain ⟨canonical, -, h⟩ := bind_eq_ok.mp h
      cases h
      exact ⟨of_unprocessable hsupports, Std.TreeMap.getElem?_erase_self⟩
    · cases h

/-- **An action whose target is put in later** has no network of its own, and does not fit its
schema. -/
theorem obstructed_of_autoTarget (hcatalogue : ∀ id t, x.templates id = some t → t ∈ catalogue)
    (haccepted : Accepted (V := V) x a) (htarget : a.autoTarget ≠ none) : ObstructedAction x a := by
  obtain ⟨inv, now, base, rule, t, template, body,
    ⟨⟨before, earlier, snapshot, inventory, hcontext, -⟩, -, -⟩, ht, hname, -, -, -, hadded⟩ :=
    haccepted
  obtain ⟨hsupports, hnone⟩ := addedParams_autoTarget hadded htarget
  have hmem := prefix_mem_schema t (hcatalogue _ t ht) (hname ▸ hsupports)
  refine ⟨t, snapshot, inventory, ht, hcontext, .invalid fun subst hsubst => ?_⟩
  obtain ⟨-, values, hvalues, -, -⟩ := exists_values_of_validateAndExpand hsubst
  obtain ⟨-, here, -, -, hhere, -⟩ :=
    exists_split_of_expandParams (tidySchema t (hcatalogue _ t ht)).sorted hmem hvalues
  exact expandParam_destination a.params hnone hhere

/-- **The audit goes by what the run found**, exactly if the actions that are refused are
missing. -/
theorem audit_iff (hcatalogue : ∀ id t, x.templates id = some t → t ∈ catalogue)
    (hids : Table.Keyed RuleAction.id db.actions) :
    DisarmsForDrift x db ∧ KeepsAccepted x db ↔ RefusesDrift x db := by
  rw [disarmsForDrift_iff hcatalogue, keepsAccepted_iff hcatalogue hids]
  constructor
  · rintro ⟨hfirst, hkeeps⟩
    refine ⟨hfirst, fun a ha hclear hfails hok haccepted => ?_⟩
    have hnot : ¬Refused x a := fun hrefused => hkeeps a ha hclear hrefused hok haccepted
    refine ⟨?_, fun h => hnot ⟨hfails, Or.inl h⟩, fun h => hnot ⟨hfails, Or.inr h⟩⟩
    by_contra htarget
    exact hnot ⟨hfails, Or.inr (obstructed_of_autoTarget hcatalogue haccepted htarget)⟩
  · rintro ⟨hfirst, hkeeps⟩
    refine ⟨hfirst, fun a ha hclear hrefused hok haccepted => ?_⟩
    obtain ⟨-, hfound, hfree⟩ := hkeeps a ha hclear hrefused.1 hok haccepted
    exact hrefused.2.elim hfound hfree

end Exactly

/-! ### An action whose target is put in later -/

/-- A run that found one announced network. -/
def quietRun : Audit Text where
  fold := id
  now := 0
  device := 1
  before := {}
  found := ⟨["203.0.113.0/24"], true, .ok (⟨[], [], [], [], [], []⟩, ⟨[], [], [], []⟩)⟩
  templates id := if id = 1 then some nullRoutePrefix else none
  quiet := true
  fails _ := false

/-- An armed rule. -/
def armedRule : RuleRow ℕ where
  name := "r"
  interfaceId := some 1
  deviceId := some 1
  metricAggregation := "single"
  members := []
  condition := ⟨"flow_bps", ">", 0, 1, 0, "auto", none, none, none, some "ingress",
    none, none, none⟩
  severity := "critical"
  enabled := true
  automaticRerouteEnabled := true
  automaticRevertEnabled := false
  manualApplyEnabled := false
  rerouteTemplateId := none

/-- Its one action, as it was accepted. -/
def nullRouteAction : RuleAction Params where
  id := 1
  ruleId := 1
  rerouteTemplateId := 1
  deviceId := 1
  params := ∅
  autoTarget := some flowDstHost
  position := 0

/-- The tables before the audit. -/
def armedDb : RuleDb Params ℕ where
  rules id := if id = 1 then some armedRule else none
  actions := [nullRouteAction]
  templates _ := none

theorem accepted_nullRouteAction : Accepted (V := ℕ) quietRun nullRouteAction := by
  refine ⟨storeRun id 0 quietRun.found {}, 0,
    ⟨fun _ => true, fun _ => none, fun _ _ p => .ok p, fun _ _ _ => .ok true, fun _ _ => .ok (), id,
      id⟩, armedRule, nullRoutePrefix, ⟨"null_route_prefix", "device_cli", true, true⟩,
    ⟨1, 1, ∅, none, some flowDstHost⟩, ?_, rfl, rfl, rfl, rfl, rfl, ?_⟩
  · exact ⟨⟨{}, 0, _, _, rfl, stored_storeRun rfl⟩, rfl, rfl⟩
  · rfl

theorem catalogued_quietRun : ∀ id t, quietRun.templates id = some t → t ∈ catalogue := by
  intro id t h
  have hif : (if id = 1 then some nullRoutePrefix else none) = some t := h
  split at hif
  · cases hif
    exact List.mem_cons_self
  · cases hif

/-- Its parameters do not fit the schema. -/
theorem invalid_nullRouteAction :
    ∀ subst, validateAndExpand nullRoutePrefix.schema nullRouteAction.params ≠ .ok subst := by
  intro subst
  have h : validateAndExpand nullRoutePrefix.schema nullRouteAction.params =
      .error "missing required parameter 'prefix'" := rfl
  rw [h]
  nofun

theorem not_missing_nullRouteAction : ¬MissingAction quietRun nullRouteAction := by
  rintro ⟨t, snapshot, inventory, ht, -, hmissing⟩
  obtain rfl : nullRoutePrefix = t := Option.some.inj ht
  cases hmissing with
  | source hsubst => exact invalid_nullRouteAction _ hsubst
  | link hsubst => exact invalid_nullRouteAction _ hsubst
  | space hsubst => exact invalid_nullRouteAction _ hsubst

/-- **An armed rule is disarmed, and an action that was accepted is marked**, over a router that
still is as it was. -/
theorem audit_of_autoTarget :
    ¬DisarmsForDrift quietRun armedDb ∧ ¬KeepsAccepted quietRun armedDb := by
  have hlooked : quietRun.looked armedDb = [nullRouteAction] := rfl
  have hclear : Clear armedDb nullRouteAction := nofun
  have hrefused : Refused quietRun nullRouteAction :=
    ⟨rfl, Or.inr (obstructed_of_autoTarget catalogued_quietRun accepted_nullRouteAction nofun)⟩
  constructor
  · intro h
    have hmissing := (disarmsForDrift_iff catalogued_quietRun).mp h [] nullRouteAction [] hlooked
      hclear hrefused
      ⟨armedRule, rfl, rfl⟩ nofun
    exact not_missing_nullRouteAction hmissing
  · intro h
    have hids : Table.Keyed RuleAction.id armedDb.actions := List.nodup_singleton _
    exact (keepsAccepted_iff catalogued_quietRun hids).mp h nullRouteAction
      (hlooked ▸ List.mem_singleton_self _)
      hclear hrefused rfl accepted_nullRouteAction

/-- An action whose network is no longer announced, marked by an earlier audit. -/
def lostAction : RuleAction Params :=
  { nullRouteAction with
    params := (∅ : Params).insert prefixParam (.string "198.51.100.0/24")
    autoTarget := none
    inventoryState := .drifted }

/-- The tables with this action. -/
def lostDb : RuleDb Params ℕ := { armedDb with actions := [lostAction] }

theorem missing_lostAction : MissingAction quietRun lostAction := by
  refine ⟨nullRoutePrefix, _, _, rfl, rfl, ?_⟩
  obtain ⟨subst, hsubst, hprefix⟩ :
      ∃ subst, validateAndExpand nullRoutePrefix.schema lostAction.params = .ok subst ∧
      subst[prefixParam]? = some "198.51.100.0/24" := ⟨_, rfl, rfl⟩
  refine .space hsubst (by decide) hprefix ?_
  decide +kernel

/-- **A rule is rightly disarmed** when the network of its action is no longer announced. -/
theorem audit_of_lostNetwork : DisarmsForDrift quietRun lostDb ∧ KeepsAccepted quietRun lostDb := by
  have hids : Table.Keyed RuleAction.id lostDb.actions := List.nodup_singleton _
  have hlooked : quietRun.looked lostDb = [lostAction] := rfl
  refine (audit_iff catalogued_quietRun hids).mpr ⟨fun front a rest hsplit _ _ _ _ => ?_,
    fun a ha _ _ hok => ?_⟩
  · have hmem : a ∈ [lostAction] := by
      rw [← hlooked, hsplit]
      simp
    rw [List.mem_singleton.mp hmem]
    exact missing_lostAction
  · rw [hlooked] at ha
    rw [List.mem_singleton.mp ha] at hok
    cases hok

end Rerouter.Drift
