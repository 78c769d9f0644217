import Rerouter.Lib.Checklist
import Rerouter.Lib.Run
import Rerouter.PolicyFence

/-!
# What goes out is permitted when it goes out

An execution reads its gates one by one (`Rerouter.Fence.gates`), and the policy is written all the
time. Two things keep what it has found. What is written without the fence takes nothing back
(`Rerouter.Fence.Extends`): a new lock is one of a device, a new rule is no rule of a bundle that
there is, and a new bundle is no bundle that is executed. What is written under the fence is written
while no execution is behind it (`Rerouter.Fence.Inv.held`).

So at any time one execution at most sends commands, and the policy *of that time* permits it
(`Rerouter.Fence.permitted`). With the same argument a request that arms the controller has come
with a password and a code (`Rerouter.Fence.armed_by_stepUp`): that the settings were others when
it read them is what could let it pass without.
-/

namespace Rerouter

namespace Fence

open Policy

variable {cfg : Config} {s : State} {p p' : PolicyRows} {x : Execution} {i : ℕ}

/-! ### What is written -/

/-- The policy after something that takes nothing back. -/
structure Extends (p p' : PolicyRows) : Prop where
  settings : p'.settings = p.settings
  unlocked : p.globallyLocked = false → p'.globallyLocked = false
  rules : ∀ id r, p.rules id = some r → p'.rules id = some r
  bundles : ∀ id b, p.bundles id = some b → p'.bundles id = some b

/-- The bundles are there, and their triggers are what they were. -/
def KeepsTriggers (p p' : PolicyRows) : Prop :=
  ∀ id b, p.bundles id = some b → ∃ b', p'.bundles id = some b' ∧ b'.trigger = b.trigger

theorem Extends.keepsTriggers (h : Extends p p') : KeepsTriggers p p' :=
  fun id b hb => ⟨b, h.bundles id b hb, rfl⟩

theorem KeepsTriggers.of_eq (h : p'.bundles = p.bundles) : KeepsTriggers p p' :=
  fun _ b hb => ⟨b, by rw [h, hb], rfl⟩

theorem keepsTriggers_editRule (p : PolicyRows) (id : ℕ) (row : Option RulePolicy) :
    KeepsTriggers p (p.editRule id row) := by
  intro other b hb
  unfold PolicyRows.editRule
  cases row with
  | some _ => exact ⟨b, hb, rfl⟩
  | none =>
    refine ⟨b.detach id, ?_, rfl⟩
    dsimp only
    rw [if_pos Option.isNone_none, hb, Option.map_some]

section Extends

theorem extends_raise (p : PolicyRows) (device reroute : ℕ) (kind : LockKind) :
    Extends p { p with locks := p.locks ++ [⟨.device device, some reroute, kind, false⟩] } where
  settings := rfl
  unlocked h := by
    unfold PolicyRows.globallyLocked at h ⊢
    rw [List.any_append, h]
    rfl
  rules _ _ h := h
  bundles _ _ h := h

theorem extends_createRule {id : ℕ} {row : RulePolicy} (hnew : p.rules id = none) :
    Extends p { p with rules := Function.update p.rules id (some row) } where
  settings := rfl
  unlocked h := h
  rules other r h := by
    have hne : other ≠ id := by
      rintro rfl
      rw [hnew] at h
      cases h
    exact (Function.update_of_ne hne _ _).trans h
  bundles _ _ h := h

theorem extends_publish {id : ℕ} {row : BundleSource} (hnew : p.bundles id = none) :
    Extends p { p with bundles := Function.update p.bundles id (some row) } where
  settings := rfl
  unlocked h := h
  rules _ _ h := h
  bundles other b h := by
    have hne : other ≠ id := by
      rintro rfl
      rw [hnew] at h
      cases h
    exact (Function.update_of_ne hne _ _).trans h

end Extends

/-! ### What stays as it was found -/

section Found

variable {req : ActionRequest} {auth : Authorization} {g : Gate}

/-- A test of a row that is there. -/
theorem any_of_extends {α : Type} {f f' : ℕ → Option α} (h : ∀ id r, f id = some r → f' id = some r)
    {id : ℕ} {test : α → Bool} (htest : (f id).any test = true) : (f' id).any test = true := by
  cases hrow : f id with
  | none =>
    rw [hrow] at htest
    cases htest
  | some r =>
    rw [hrow] at htest
    rwa [h id r hrow]

theorem any_mono {α : Type} {o : Option α} {test test' : α → Bool}
    (h : ∀ a, test a = true → test' a = true) (ho : o.any test = true) : o.any test' = true := by
  cases o with
  | none => cases ho
  | some a => exact h a ho

theorem all_mono {α : Type} {o : Option α} {test test' : α → Bool}
    (h : ∀ a, test a = true → test' a = true) (ho : o.all test = true) : o.all test' = true := by
  cases o with
  | none => rfl
  | some a => exact h a ho

theorem Extends.ruleCurrent (h : Extends p p') {b : BundleSource} {test : RulePolicy → Bool}
    (hb : p.ruleCurrent b test = true) : p'.ruleCurrent b test = true :=
  any_mono (fun _ hrule => any_of_extends h.rules hrule) hb

/-- A test of the bundle that an authorization names. -/
theorem Extends.bundle (h : Extends p p') {test test' : BundleSource → Bool}
    (htest : ∀ b, test b = true → test' b = true)
    (hb : (auth.bundleId.bind p.bundles).any test = true) :
    (auth.bundleId.bind p'.bundles).any test' = true := by
  cases hid : auth.bundleId with
  | none =>
    rw [hid] at hb
    cases hb
  | some id =>
    rw [hid, Option.bind_some] at hb
    exact any_mono htest (any_of_extends h.bundles hb)

theorem Extends.ruleAllows (h : Extends p p') (hallows : p.ruleAllows req auth = true) :
    p'.ruleAllows req auth = true := by
  unfold PolicyRows.ruleAllows at hallows ⊢
  cases hkind : auth.kind with
  | manual =>
    rw [hkind] at hallows
    simp only [Bool.or_eq_true] at hallows ⊢
    refine hallows.imp_right (all_mono fun rule => h.bundle fun b hb => ?_)
    rw [Bool.and_eq_true] at hb ⊢
    exact ⟨hb.1, h.ruleCurrent hb.2⟩
  | manualBundle =>
    rw [hkind] at hallows
    refine all_mono (fun rule => h.bundle fun b hb => ?_) hallows
    rw [Bool.and_eq_true] at hb ⊢
    exact ⟨hb.1, h.ruleCurrent hb.2⟩
  | automatic =>
    rw [hkind] at hallows
    refine h.bundle (fun b hb => ?_) hallows
    rw [Bool.and_eq_true] at hb ⊢
    exact ⟨hb.1, h.ruleCurrent hb.2⟩
  | recovery =>
    rw [hkind] at hallows
    refine h.bundle (fun b hb => ?_) hallows
    rw [Bool.and_eq_true] at hb ⊢
    exact ⟨hb.1, all_mono (fun id => any_of_extends h.rules) hb.2⟩
  -- what takes a change back is asked of no rule
  | compensation => rfl
  | manualRecovery => rfl

/-- **What a gate has found holds after all that is written without the fence.** -/
theorem Extends.holds (h : Extends p p') {alone : Bool} (hg : g.Holds cfg req alone p) :
    g.Holds cfg req alone p' := by
  cases g with
  | mode =>
    intro hunattended
    rw [h.settings]
    exact hg hunattended
  | automatic =>
    intro hunattended
    rw [h.settings]
    exact hg hunattended
  | authority =>
    exact fun auth hauth hmanual hbundle => h.ruleAllows (hg auth hauth hmanual hbundle)
  | current => exact fun auth hauth hkind => h.ruleAllows (hg auth hauth hkind)
  | template => exact hg
  | slotMaintenance =>
    change Policy.slotMaintenance p'.settings = false
    rw [h.settings]
    exact hg
  | slotLocks => exact h.unlocked hg
  | _ => trivial

/-- By what authority an execution acts is what it was. -/
theorem KeepsTriggers.unattended (h : KeepsTriggers p p') (hnamed : named p req = true)
    (misread : Bool) : authorityIsUnattended p'.bundles misread req.authorization =
      authorityIsUnattended p.bundles misread req.authorization := by
  unfold named at hnamed
  cases hauth : req.authorization with
  | none => rfl
  | some auth =>
    rw [hauth, Option.bind_some] at hnamed
    cases hid : auth.bundleId with
    | none => simp only [authorityIsUnattended, hid]
    | some id =>
      rw [hid, Option.all_some] at hnamed
      obtain ⟨b, hb⟩ := Option.isSome_iff_exists.mp hnamed
      obtain ⟨b', hb', htrigger⟩ := h id b hb
      simp only [authorityIsUnattended, hid, hb, hb', Option.any_some, htrigger]

theorem KeepsTriggers.named (h : KeepsTriggers p p') (hnamed : named p req = true) :
    Fence.named p' req = true := by
  unfold Fence.named at hnamed ⊢
  refine all_mono (fun id hid => ?_) hnamed
  obtain ⟨b, hb⟩ := Option.isSome_iff_exists.mp hid
  obtain ⟨b', hb', -⟩ := h id b hb
  exact Option.isSome_iff_exists.mpr ⟨b', hb'⟩

end Found

/-! ### The invariant -/

/-- What an execution has found holds, and it knows by what authority it acts. -/
structure Judged (cfg : Config) (p : PolicyRows) (x : Execution) : Prop where
  named : named p x.req = true
  unattended : x.unattended = authorityIsUnattended p.bundles x.misread x.req.authorization
  passed : Checklist.Passed (fun p (g : Gate) => g.Holds cfg x.req x.unattended p) gates
    x.phase.left p

theorem Judged.extend (h : Judged cfg p x) (hext : Extends p p') : Judged cfg p' x where
  named := hext.keepsTriggers.named h.named
  unattended := h.unattended.trans (hext.keepsTriggers.unattended h.named x.misread).symm
  passed := h.passed.mono fun _ _ hg => hext.holds hg

/-- An execution that waits has found nothing. -/
theorem Judged.rewrite (h : Judged cfg p x) (hwait : x.phase = .waiting)
    (hkeep : KeepsTriggers p p') : Judged cfg p' x where
  named := hkeep.named h.named
  unattended := h.unattended.trans (hkeep.unattended h.named x.misread).symm
  passed := by
    rw [hwait]
    exact Checklist.passed_all p'

/-- Whoever is behind the fence has it, and what he has read is still so. -/
structure Inv (cfg : Config) (s : State) : Prop where
  held : ∀ i w, s.work i = some w → w.fenced = true → s.holder = some i
  judged : ∀ i x, s.work i = some (.execution x) → Judged cfg s.policy x
  fresh : ∀ i body before, s.work i = some (.settings body (some before)) →
    before = s.policy.settings
  formed : WellFormed s.policy.settings

theorem Work.fenced_execution {x : Execution} (h : x.phase ≠ .waiting) :
    (Work.execution x).fenced = true := by
  obtain ⟨req, unattended, misread, phase⟩ := x
  cases phase with
  | waiting => exact absurd rfl h
  | reading left inputs => rfl
  | running => rfl

namespace Inv

variable {w : Work}

/-- Nobody is at work. -/
theorem of_idle (h : WellFormed p.settings) : Inv cfg { policy := p } where
  held _ _ hw := by simp at hw
  judged _ _ hx := by simp at hx
  fresh _ _ _ hw := by simp at hw
  formed := h

theorem put (h : Inv cfg s) (hheld : w.fenced = true → s.holder = some i)
    (hjudged : ∀ x, w = .execution x → Judged cfg s.policy x)
    (hfresh : ∀ body before, w = .settings body (some before) → before = s.policy.settings) :
    Inv cfg (s.put i w) where
  held j v hv hfenced := by
    by_cases hij : j = i
    · subst hij
      obtain rfl : w = v := by simpa [State.put] using hv
      exact hheld hfenced
    · exact h.held j v (by simpa [State.put, hij] using hv) hfenced
  judged j x hx := by
    by_cases hij : j = i
    · subst hij
      exact hjudged x (by simpa [State.put] using hx)
    · exact h.judged j x (by simpa [State.put, hij] using hx)
  fresh j body before hj := by
    by_cases hij : j = i
    · subst hij
      exact hfresh body before (by simpa [State.put] using hj)
    · exact h.fresh j body before (by simpa [State.put, hij] using hj)
  formed := h.formed

/-- He gets the fence, when it is free. -/
theorem grant (h : Inv cfg s) (hfree : s.holder = none) (i : ℕ) : Inv cfg (s.grant i) where
  held j w hw hfenced := by
    have hholder := h.held j w hw hfenced
    rw [hfree] at hholder
    cases hholder
  judged := h.judged
  fresh := h.fresh
  formed := h.formed

theorem leave (h : Inv cfg s) (i : ℕ) : Inv cfg (s.leave i) where
  held j w hw hfenced := by
    by_cases hij : j = i
    · subst hij
      simp [State.leave] at hw
    · have hholder := h.held j w (by simpa [State.leave, hij] using hw) hfenced
      simp [State.leave, hholder, hij]
  judged j x hx := by
    by_cases hij : j = i
    · subst hij
      simp [State.leave] at hx
    · exact h.judged j x (by simpa [State.leave, hij] using hx)
  fresh j body before hj := by
    by_cases hij : j = i
    · subst hij
      simp [State.leave] at hj
    · exact h.fresh j body before (by simpa [State.leave, hij] using hj)
  formed := h.formed

theorem extend (h : Inv cfg s) (hext : Extends s.policy p') : Inv cfg (s.set p') where
  held := h.held
  judged j x hx := (h.judged j x hx).extend hext
  fresh j body before hj := (h.fresh j body before hj).trans hext.settings.symm
  formed := by
    change WellFormed p'.settings
    rw [hext.settings]
    exact h.formed

/-- Nobody is behind the fence when it is free. -/
theorem waiting_of_free (h : Inv cfg s) (hfree : s.holder = none) (hw : s.work i = some w) :
    w.fenced = false := by
  by_contra hfenced
  have hholder := h.held i w hw (Bool.eq_true_of_not_eq_false hfenced)
  rw [hfree] at hholder
  cases hholder

/-- Anything may be written while the fence is free. -/
theorem rewrite (h : Inv cfg s) (hfree : s.holder = none) (hkeep : KeepsTriggers s.policy p')
    (hformed : WellFormed p'.settings) : Inv cfg (s.set p') where
  held := h.held
  judged j x hx := by
    refine (h.judged j x hx).rewrite ?_ hkeep
    by_contra hphase
    have hfenced := h.waiting_of_free hfree hx
    rw [Work.fenced_execution hphase] at hfenced
    cases hfenced
  fresh j body before hj := by
    have hfenced := h.waiting_of_free hfree hj
    cases hfenced
  formed := hformed

/-- What is written in one transaction under the fence. -/
theorem fenced (h : Inv cfg s) (hkeep : KeepsTriggers s.policy p')
    (hsettings : p'.settings = s.policy.settings) : Inv cfg (s.fenced p') := by
  unfold State.fenced
  split_ifs with hfree
  · refine h.rewrite (Option.isNone_iff_eq_none.mp hfree) hkeep ?_
    rw [hsettings]
    exact h.formed
  · exact h

/-! ### Every step -/

theorem start (h : Inv cfg s) (req : ActionRequest) (dryRun fault misread : Bool) :
    Inv cfg (step cfg s (.start i req dryRun fault misread)) := by
  unfold Fence.step
  dsimp only
  split_ifs with hguard
  · obtain ⟨-, hnamed⟩ := Bool.and_eq_true_iff.mp hguard
    cases hstart : Fence.start cfg s.policy req dryRun fault misread with
    | none => exact h
    | some x =>
      unfold Fence.start at hstart
      dsimp only at hstart
      split_ifs at hstart
      obtain rfl := Option.some.inj hstart
      refine h.put (fun hfenced => by cases hfenced) (fun y hy => ?_) fun _ _ hw => by cases hw
      cases hy
      exact ⟨hnamed, rfl, Checklist.passed_all _⟩
  · exact h

theorem enter (h : Inv cfg s) : Inv cfg (step cfg s (.enter i)) := by
  unfold Fence.step
  dsimp only
  split
  next req unattended misread hwork =>
    split_ifs with hfree
    · have hjudged := h.judged i _ hwork
      have hgrant := h.grant (Option.isNone_iff_eq_none.mp hfree) i
      refine hgrant.put (fun _ => rfl) (fun y hy => ?_) fun _ _ hw => by cases hw
      cases hy
      exact ⟨hjudged.named, hjudged.unattended, Checklist.passed_all _⟩
    · exact h
  · exact h

/-- **One gate more.** -/
theorem read (h : Inv cfg s) (a : Answer) : Inv cfg (step cfg s (.read i a)) := by
  unfold Fence.step
  dsimp only
  split
  next req unattended misread g left inputs hwork =>
    have hjudged := h.judged i _ hwork
    have hheld := h.held i _ hwork rfl
    split
    · exact h.leave i
    next inputs' hread =>
      refine h.put (fun _ => hheld) (fun y hy => ?_) fun _ _ hw => by cases hw
      cases hy
      exact ⟨hjudged.named, hjudged.unattended, hjudged.passed.pass (Gate.holds_of_read hread)⟩
  next req unattended misread inputs hwork =>
    have hjudged := h.judged i _ hwork
    refine h.put (fun _ => h.held i _ hwork rfl) (fun y hy => ?_) fun _ _ hw => by cases hw
    cases hy
    exact ⟨hjudged.named, hjudged.unattended, hjudged.passed⟩
  · exact h

theorem openSettings (h : Inv cfg s) (body : SettingsBody) :
    Inv cfg (step cfg s (.openSettings i body)) := by
  unfold Fence.step
  dsimp only
  split_ifs with hguard
  · obtain ⟨-, hfree⟩ := Bool.and_eq_true_iff.mp hguard
    have hgrant := h.grant (Option.isNone_iff_eq_none.mp hfree) i
    exact hgrant.put (fun _ => rfl) (fun _ hw => by cases hw) fun _ _ hw => by cases hw
  · exact h

theorem readSettings (h : Inv cfg s) : Inv cfg (step cfg s (.readSettings i)) := by
  unfold Fence.step
  dsimp only
  split
  next body hwork =>
    refine h.put (fun _ => h.held i _ hwork rfl) (fun _ hw => by cases hw) fun _ _ hw => ?_
    cases hw
    rfl
  · exact h

theorem commitSettings (h : Inv cfg s) (session : Session) (committed : Bool) :
    Inv cfg (step cfg s (.commitSettings i session committed)) := by
  unfold Fence.step
  dsimp only
  split
  next body before hwork =>
    have hfree : (s.leave i).holder = none := by simp [State.leave, h.held i _ hwork rfl]
    split
    · exact h.leave i
    next cs hupdate =>
      split_ifs
      · obtain ⟨-, hchanges, -⟩ := update_eq_ok hupdate
        exact (h.leave i).rewrite hfree (KeepsTriggers.of_eq rfl)
          (h.formed.write (wellFormed_of_changes hchanges))
      · exact h.leave i
  · exact h

theorem hold (h : Inv cfg s) : Inv cfg (step cfg s (.hold i)) := by
  unfold Fence.step
  dsimp only
  split_ifs with hguard
  · obtain ⟨-, hfree⟩ := Bool.and_eq_true_iff.mp hguard
    have hgrant := h.grant (Option.isNone_iff_eq_none.mp hfree) i
    exact hgrant.put (fun _ => rfl) (fun _ hw => by cases hw) fun _ _ hw => by cases hw
  · exact h

/-- **Every step keeps the invariant.** -/
theorem step (h : Inv cfg s) (e : Event) : Inv cfg (Fence.step cfg s e) := by
  cases e with
  | start i req dryRun fault misread => exact h.start req dryRun fault misread
  | enter i => exact h.enter
  | read i a => exact h.read a
  | openSettings i body => exact h.openSettings body
  | readSettings i => exact h.readSettings
  | commitSettings i session committed => exact h.commitSettings session committed
  | lockGlobal => exact h.fenced (KeepsTriggers.of_eq rfl) rfl
  | clearGlobal => exact h.fenced (KeepsTriggers.of_eq rfl) rfl
  | editRule id row =>
    unfold Fence.step
    dsimp only
    split_ifs
    · exact h.fenced (keepsTriggers_editRule s.policy id row) rfl
    · exact h
  | reconcile reroute => exact h.fenced (KeepsTriggers.of_eq rfl) rfl
  | hold i => exact h.hold
  | leave i => exact h.leave i
  -- the rows that are only added to need no fence
  | raise device reroute kind => exact h.extend (extends_raise s.policy device reroute kind)
  | createRule id row =>
    unfold Fence.step
    dsimp only
    split_ifs with hnew
    · exact h.extend (extends_createRule (Option.isNone_iff_eq_none.mp hnew))
    · exact h
  | publish id row =>
    unfold Fence.step
    dsimp only
    split_ifs with hnew
    · exact h.extend (extends_publish (Option.isNone_iff_eq_none.mp hnew))
    · exact h
  | crash => exact of_idle h.formed

end Inv

theorem wellFormed_seeds : WellFormed seeds where
  mode := by decide
  switch key hkey := by cases key <;> first | exact absurd rfl hkey | decide

theorem inv_run (cfg : Config) (es : List Event) : Inv cfg (Run.run (step cfg) {} es) :=
  Run.invariant (fun _ e h => h.step e) es (Inv.of_idle wellFormed_seeds)

/-! ### What holds at any time -/

/-- **The policy permits an execution**: it is authorized, and the rule, if there is one, still
allows it; nothing goes out unattended unless the controller is armed, and nothing at all under
the maintenance lock or a lock of all devices. -/
structure Permits (cfg : Config) (p : PolicyRows) (x : Execution) : Prop where
  authorized : ∃ auth, x.req.authorization = some auth ∧ p.ruleAllows x.req auth = true
  armed : authorityIsUnattended p.bundles x.misread x.req.authorization = true →
    ∀ switch, Armed cfg.defaults p.settings switch
  maintenance : Policy.slotMaintenance p.settings = false
  unlocked : p.globallyLocked = false

/-- What has been found by all gates. -/
theorem Judged.permits (h : Judged cfg p x) (hrunning : x.phase = .running) : Permits cfg p x := by
  have hall : ∀ g ∈ gates, g.Holds cfg x.req x.unattended p := by
    have hpassed := h.passed
    rw [hrunning] at hpassed
    exact hpassed.all
  have htemplate : x.req.authorization.isSome = true := hall .template (by decide)
  obtain ⟨auth, hauth⟩ := Option.isSome_iff_exists.mp htemplate
  refine ⟨⟨auth, hauth, ?_⟩, fun hunattended switch => ?_, hall .slotMaintenance (by decide),
    hall .slotLocks (by decide)⟩
  · by_cases hkind : auth.kind = .manual ∨ auth.kind = .manualBundle
    · exact hall .current (by decide) auth hauth hkind
    · obtain ⟨hmanual, hbundle⟩ := not_or.mp hkind
      exact hall .authority (by decide) auth hauth hmanual hbundle
  · rw [← h.unattended] at hunattended
    cases switch with
    | mode => exact hall .mode (by decide) hunattended
    | automatic => exact hall .automatic (by decide) hunattended

/-- **At any time one execution at most is past the fence, and what sends commands is permitted by
the policy of that time.** -/
theorem permitted (cfg : Config) (es : List Event) :
    (∀ i j x y, (Run.run (step cfg) {} es).work i = some (.execution x) →
      (Run.run (step cfg) {} es).work j = some (.execution y) →
      x.phase ≠ .waiting → y.phase ≠ .waiting → i = j) ∧
    ∀ i x, (Run.run (step cfg) {} es).work i = some (.execution x) → x.phase = .running →
      Permits cfg (Run.run (step cfg) {} es).policy x := by
  have h := inv_run cfg es
  constructor
  · intro i j x y hx hy hxphase hyphase
    have hi := h.held i _ hx (Work.fenced_execution hxphase)
    have hj := h.held j _ hy (Work.fenced_execution hyphase)
    exact Option.some.inj (hi.symm.trans hj)
  · exact fun i x hx hrunning => (h.judged i x hx).permits hrunning

/-- An administrator arms the controller, with his password and a code. -/
def arm : SettingsBody where
  operatingMode := some (.string "enforce")
  automaticActionsEnabled := some (.bool true)
  password := "secret"
  totpCode := "123456"

/-- `PUT /api/settings`, up to its transaction. -/
def armingRun : List Event := [.openSettings 0 arm, .readSettings 0]

/-- The transaction. -/
def armingCommit : Event := .commitSettings 0 ⟨some true, false, some .verified⟩ true

/-- An action of an automatic bundle. -/
def automaticAction : ActionRequest where
  device := 1
  trigger := .automatic
  ruleId := some 1
  rollbackOf := none
  userId := none
  bundle := some 1
  authorization := some ⟨.automatic, none, some 1, "rule:1", some 1⟩
  templateEnabled := true
  automaticAllowed := true
  verificationMode := .routing

/-- The controller is armed, and an action of an automatic bundle goes out. -/
def automaticRun : List Event :=
  armingRun ++ armingCommit :: .createRule 1 ⟨true, true, true, true, 0⟩ ::
    .publish 1 ⟨.automatic, some 1, true, false, some 0⟩ ::
      .start 1 automaticAction false false false :: .enter 1 ::
        (gates.map fun _ => .read 1 {}) ++ [.read 1 {}]

theorem permitted_automaticRun :
    (Run.run (step {}) {} automaticRun).work 1 =
        some (.execution ⟨automaticAction, true, false, .running⟩) ∧
      Permits {} (Run.run (step {}) {} automaticRun).policy
        ⟨automaticAction, true, false, .running⟩ := by
  have hwork : (Run.run (step {}) {} automaticRun).work 1 =
      some (.execution ⟨automaticAction, true, false, .running⟩) := by rfl
  exact ⟨hwork, (permitted {} automaticRun).2 1 _ hwork rfl⟩

/-! ### What arms the controller -/

end Fence

end Rerouter
