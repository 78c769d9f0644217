import Rerouter.Allowlist
import Rerouter.Lib.IosContext

/-!
# A plan in a locked session

`Rerouter.lockedCommands` takes a plan out of its `configure terminal … end` envelope, so that a
session which holds the configuration lock can send it without leaving configuration mode. What
it accepts is an envelope around a block, and what it makes of it is the block, one `exit` where
the block has a line that enters an interface or a routing process, and the commands behind the
envelope under `do` (`Rerouter.lockedCommands_spec`).

One `exit` is right when the block ends one level down. Where a global command, or an
`exit-address-family` too many, has already gone up, the `exit` leaves the configuration and
gives the lock away; where an address family is still open it does not reach global
configuration. Whether a plan is carried out as it was meant is decided by where its block ends
(`Rerouter.lockedCommands_preserves_iff`).
-/

namespace Rerouter

open Text

/-! ### What is accepted -/

section Loop

variable {st st' : LockedState} {index : ℕ} {c : Text} {commands out : List Text}

/-- **What a turn of the loop can do.** -/
theorem lockedStep_ok (h : lockedStep index st c = .ok st') :
    (c = ("configure terminal" : Text) ∧ index = 0 ∧ st.enteredConfig = false ∧
      st' = { st with enteredConfig := true }) ∨
    (c = ("end" : Text) ∧ st.enteredConfig = true ∧ st' = st.ended) ∨
    (c ≠ ("end" : Text) ∧ st.afterEnd = true ∧ startsWith "clear " c = true ∧
      st' = st.pushedDo c) ∨
    (c ≠ ("end" : Text) ∧ st.afterEnd = false ∧ st' = st.pushed c) := by
  unfold lockedStep at h
  split_ifs at h with henter _ _ hend hmisplaced hclear hafter hnested
  · obtain ⟨hc, hindex, hnot⟩ := henter
    exact Or.inl ⟨hc, hindex, hnot, (Except.ok.inj h).symm⟩
  · simp only [Bool.or_eq_true, Bool.not_eq_true', not_or, Bool.not_eq_false] at hmisplaced
    exact Or.inr (Or.inl ⟨hend, hmisplaced.1, (Except.ok.inj h).symm⟩)
  · rw [Bool.and_eq_true] at hclear
    exact Or.inr (Or.inr (Or.inl ⟨hend, hclear.1, hclear.2, (Except.ok.inj h).symm⟩))
  · exact Or.inr (Or.inr (Or.inr ⟨hend, Bool.eq_false_iff.mpr hafter, (Except.ok.inj h).symm⟩))

theorem lockedLoop_cons (h : lockedLoop index st (c :: commands) = .ok st') :
    ∃ next, lockedStep index st (trim c) = .ok next ∧
      lockedLoop (index + 1) next commands = .ok st' := by
  rw [lockedLoop] at h
  cases hstep : lockedStep index st (trim c) with
  | error e => simp [hstep] at h
  | ok next => exact ⟨next, rfl, by simpa [hstep] using h⟩

/-- Behind the envelope only `clear` is sent, under `do`. -/
theorem lockedLoop_afterEnd (hafter : st.afterEnd = true) (hentered : st.enteredConfig = true)
    (hended : st.endedConfig = true) (h : lockedLoop index st commands = .ok st') :
    (∀ a ∈ commands.map trim, startsWith "clear " a = true) ∧
      st' = { st with out := st.out ++ (commands.map trim).map fun a => ("do " : Text) ++ a } := by
  induction commands generalizing index st with
  | nil =>
    obtain rfl := Except.ok.inj h
    simp
  | cons c commands ih =>
    obtain ⟨next, hstep, hrest⟩ := lockedLoop_cons h
    rcases lockedStep_ok hstep with ⟨-, -, hnot, -⟩ | ⟨hend, -, -⟩ | ⟨-, -, hclear,
      rfl⟩ | ⟨-, hnot, -⟩
    · rw [hentered] at hnot
      cases hnot
    · simp [lockedStep, hend, hended] at hstep
    · obtain ⟨hclears, rfl⟩ := @ih (st.pushedDo (trim c)) (index + 1) hafter hentered hended hrest
      refine ⟨?_, by simp [LockedState.pushedDo]⟩
      intro a ha
      rcases List.mem_cons.mp ha with rfl | ha
      · exact hclear
      · exact hclears a ha
    · rw [hafter] at hnot
      cases hnot

/-- Without a `configure terminal` at its head nothing is ever entered. -/
theorem lockedLoop_not_entered (hindex : index ≠ 0) (hentered : st.enteredConfig = false)
    (h : lockedLoop index st commands = .ok st') : st'.enteredConfig = false := by
  induction commands generalizing index st with
  | nil =>
    obtain rfl := Except.ok.inj h
    exact hentered
  | cons c commands ih =>
    obtain ⟨next, hstep, hrest⟩ := lockedLoop_cons h
    rcases lockedStep_ok hstep with ⟨-, hzero, -⟩ | ⟨-, hyes, -⟩ | ⟨-, -, -, rfl⟩ | ⟨-, -, rfl⟩
    · exact absurd hzero hindex
    · rw [hentered] at hyes
      cases hyes
    · exact @ih (st.pushedDo (trim c)) (index + 1) (Nat.succ_ne_zero index) hentered hrest
    · exact @ih (st.pushed (trim c)) (index + 1) (Nat.succ_ne_zero index) hentered hrest

/-- Inside the envelope, up to its `end`. -/
theorem lockedLoop_inside (hafter : st.afterEnd = false) (hentered : st.enteredConfig = true)
    (hended : st.endedConfig = false) (h : lockedLoop index st commands = .ok st')
    (hend : st'.endedConfig = true) :
    ∃ body clears, commands.map trim = body ++ ("end" : Text) :: clears ∧
      (∀ a ∈ body, a ≠ ("end" : Text)) ∧ (∀ a ∈ clears, startsWith "clear " a = true) ∧
      st'.out = st.out ++ body ++
        (if st.nested || body.any entersSubcontext then [("exit" : Text)] else []) ++
          clears.map fun a => ("do " : Text) ++ a := by
  induction commands generalizing index st with
  | nil =>
    obtain rfl := Except.ok.inj h
    rw [hended] at hend
    cases hend
  | cons c commands ih =>
    obtain ⟨next, hstep, hrest⟩ := lockedLoop_cons h
    rcases lockedStep_ok hstep with ⟨-, -, hnot, -⟩ | ⟨hc, -, rfl⟩ | ⟨-, hyes, -⟩ | ⟨hc, -, rfl⟩
    · rw [hentered] at hnot
      cases hnot
    -- behind `end` only clears are let through, each with `do` in front
    · obtain ⟨hclears, rfl⟩ := @lockedLoop_afterEnd st.ended _ _ _ rfl hentered rfl hrest
      refine ⟨[], commands.map trim, by simp [hc], by simp, hclears, ?_⟩
      cases hnested : st.nested <;> simp [LockedState.ended, hnested]
    · rw [hafter] at hyes
      cases hyes
    · obtain ⟨body, clears, hsplit, hbody, hclears, hout⟩ :=
        @ih (st.pushed (trim c)) (index + 1) hafter hentered hended hrest
      refine ⟨trim c :: body, clears, by simp [hsplit], ?_, hclears, ?_⟩
      · intro a ha
        rcases List.mem_cons.mp ha with rfl | ha
        · exact hc
        · exact hbody a ha
      · simp [hout, LockedState.pushed, Bool.or_assoc]

/-- **What is accepted, and what it becomes**: an envelope around a block. -/
theorem lockedCommands_spec (h : lockedCommands commands = .ok out) :
    ∃ body clears,
      commands.map trim = ("configure terminal" : Text) :: (body ++ ("end" : Text) :: clears) ∧
      (∀ a ∈ body, a ≠ ("end" : Text)) ∧ (∀ a ∈ clears, startsWith "clear " a = true) ∧
      out = body ++ (if body.any entersSubcontext then [("exit" : Text)] else []) ++
        clears.map fun a => ("do " : Text) ++ a := by
  unfold lockedCommands at h
  split at h
  · cases h
  rename_i last hloop
  split_ifs at h with hincomplete
  obtain rfl := Except.ok.inj h
  simp only [Bool.or_eq_true, Bool.not_eq_true', not_or, Bool.not_eq_false, Bool.not_eq_true]
    at hincomplete
  cases commands with
  | nil =>
    obtain rfl := Except.ok.inj hloop
    cases hincomplete.1.1
  | cons c commands =>
    obtain ⟨next, hstep, hrest⟩ := lockedLoop_cons hloop
    rcases lockedStep_ok hstep with ⟨hc, -, -, rfl⟩ | ⟨-, hyes, -⟩ | ⟨-, hyes, -⟩ | ⟨-, -, rfl⟩
    · obtain ⟨body, clears, hsplit, hbody, hclears, hout⟩ :=
        lockedLoop_inside rfl rfl rfl hrest hincomplete.1.2
      exact ⟨body, clears, by simp [hc, hsplit], hbody, hclears, by simpa using hout⟩
    · cases hyes
    · cases hyes
    -- without `configure terminal` first the plan is never entered, so it is incomplete
    · have hnever := lockedLoop_not_entered (by decide) rfl hrest
      rw [hnever] at hincomplete
      cases hincomplete.1.1

end Loop

/-! ### Where a plan is carried out -/

/-- The words of commands. -/
def commandWords (commands : List Text) : List (List Text) := commands.map splitWhitespace

/-- The block of a plan: what stands between its `configure terminal` and its `end`. -/
def configBlock (commands : List Text) : List Text :=
  ((commands.map trim).drop 1).takeWhile fun a => decide (a ≠ ("end" : Text))

/-- **A plan is preserved**: sent from global configuration, the commands carry out what the plan
does, never leave configuration mode, and end at global configuration. -/
structure Preserves (commands out : List Text) : Prop where
  run : Ios.run .global (commandWords out) = Ios.run .exec (commandWords commands)
  stays : Ios.StaysInConfig .global (commandWords out)
  final : Ios.final .global (commandWords out) = .global

/-- A block goes up from no more than it went down, and ends one level down where it has a line
that enters an interface or a routing process, and at global configuration where it has none. -/
structure BlockCloses (commands : List Text) : Prop where
  stays : Ios.StaysInConfig .global (commandWords (configBlock commands))
  depth : (Ios.final .global (commandWords (configBlock commands))).depth =
    if (configBlock commands).any entersSubcontext then 1 else 0

/-- The accepted plan: `check_allowed`, then `locked_commands`. -/
def acceptedPlan (commands : List Text) : Except Text (List Text) :=
  match checkAllowed commands with
  | .error e => .error e
  | .ok () => lockedCommands commands

theorem commandWords_map_trim (commands : List Text) :
    commandWords (commands.map trim) = commandWords commands := by
  simp [commandWords]

theorem kind_of_clear {c : Text} (h : startsWith "clear " c = true) :
    Ios.kind (splitWhitespace c) = .exec := by
  obtain ⟨rest, hrest⟩ := Option.isSome_iff_exists.mp h
  obtain rfl := stripPrefix_eq_some.mp hrest
  have hwords : splitWhitespace (("clear " : Text) ++ rest) =
    ("clear" : Text) :: splitWhitespace rest :=
    splitWhitespace_append_space (by decide : NoWs ("clear" : Text)) (by decide) rest
  rw [hwords]
  rfl

theorem splitWhitespace_do (c : Text) :
    splitWhitespace (("do " : Text) ++ c) = ("do" : Text) :: splitWhitespace c :=
  splitWhitespace_append_space (by decide : NoWs ("do" : Text)) (by decide) c

variable {body clears : List Text}

/-- The plan: its block, then what stands behind the envelope. -/
theorem run_envelope (hclears : ∀ a ∈ clears, startsWith "clear " a = true) :
    Ios.run .exec (commandWords (("configure terminal" : Text) ::
      (body ++ ("end" : Text) :: clears))) =
      Ios.run .global (commandWords body) ++ (commandWords clears).map .ran := by
  have henter : splitWhitespace "configure terminal" = (["configure", "terminal"] : List Text) := by
    decide +kernel
  have hleave : splitWhitespace "end" = (["end"] : List Text) := by decide +kernel
  have hexec : ∀ c ∈ commandWords clears, Ios.kind c = .exec := by
    intro c hc
    obtain ⟨a, ha, rfl⟩ := List.mem_map.mp hc
    exact kind_of_clear (hclears a ha)
  have hafter : ∀ context, Ios.after context (["end"] : List Text) = .exec := by
    intro context
    cases context <;> rfl
  have hevents : ∀ context, Ios.events context (["end"] : List Text) = [] := by
    intro context
    cases context <;> rfl
  simp only [commandWords, List.map_cons, List.map_append, henter, hleave]
  rw [Ios.run, Ios.run_append, Ios.run, hafter, hevents]
  rw [show List.map splitWhitespace clears = commandWords clears from rfl, Ios.run_of_exec hexec]
  rfl

/-- What is sent: the block, what leaves it, and the rest under `do`. -/
theorem commandWords_sent (leaving : List Text) :
    commandWords (body ++ leaving ++ clears.map fun a => ("do " : Text) ++ a) =
      commandWords body ++ commandWords leaving ++
        (commandWords clears).map fun c => ("do" : Text) :: c := by
  have hdo : (fun a => splitWhitespace (("do " : Text) ++ a)) = fun a =>
    ("do" : Text) :: splitWhitespace a :=
    funext splitWhitespace_do
  simp only [commandWords, List.map_append, List.map_map, Function.comp_def, hdo]

/-- What is under `do` changes no context. -/
theorem after_do_context (context : Ios.Context) (commands : List (List Text)) :
    Ios.final context (commands.map fun c => ("do" : Text) :: c) = context := by
  induction commands with
  | nil => rfl
  | cons c commands ih => rw [List.map_cons, Ios.final_cons, Ios.after_do, ih]

theorem commandWords_exit :
    commandWords [("exit" : Text)] = [[("exit" : Text)]] := by decide +kernel

theorem after_exit (context : Ios.Context) : Ios.after context [("exit" : Text)] = context.up := by
  cases context <;> rfl

theorem events_exit (context : Ios.Context) : Ios.events context [("exit" : Text)] = [] := by
  cases context <;> rfl

/-- One level down is where `exit` reaches global configuration. -/
theorem up_eq_global_iff {context : Ios.Context} : context.up = .global ↔ context.depth = 1 := by
  cases context <;> simp [Ios.Context.up, Ios.Context.depth]

theorem eq_global_iff {context : Ios.Context} (h : context.inConfig = true) :
    context = .global ↔ context.depth = 0 := by
  cases context <;> simp [Ios.Context.inConfig, Ios.Context.depth] at h ⊢

/-- The block of an envelope. -/
theorem configBlock_envelope {commands : List Text}
    (h : commands.map trim = ("configure terminal" : Text) :: (body ++ ("end" : Text) :: clears))
    (hbody : ∀ a ∈ body, a ≠ ("end" : Text)) : configBlock commands = body := by
  rw [configBlock, h, List.drop_one, List.tail_cons,
    List.takeWhile_append_of_pos fun a ha => decide_eq_true (hbody a ha)]
  simp

/-- What is sent ends where the block and its `exit` end. -/
theorem final_sent :
    Ios.final .global (commandWords (body ++
        (if body.any entersSubcontext then [("exit" : Text)] else []) ++
          clears.map fun a => ("do " : Text) ++ a)) =
      if body.any entersSubcontext then (Ios.final .global (commandWords body)).up
      else Ios.final .global (commandWords body) := by
  rw [commandWords_sent, Ios.final_append, Ios.final_append, after_do_context]
  split
  · rw [commandWords_exit, Ios.final_cons, Ios.final_nil, after_exit]
  · rfl

/-- **Whether a plan is preserved** is decided by its block, for every plan that is accepted. -/
theorem lockedCommands_preserves_iff {commands out : List Text}
    (h : acceptedPlan commands = .ok out) :
    Preserves commands out ↔ BlockCloses commands := by
  unfold acceptedPlan at h
  split at h
  · cases h
  obtain ⟨body, clears, hsplit, hbody, hclears, rfl⟩ := lockedCommands_spec h
  have hblock := configBlock_envelope hsplit hbody
  have hfinal := @final_sent body clears
  constructor
  · rintro ⟨-, hstays, hglobal⟩
    rw [hfinal] at hglobal
    rw [commandWords_sent, Ios.staysInConfig_append, Ios.staysInConfig_append] at hstays
    refine ⟨hblock ▸ hstays.1.1, ?_⟩
    rw [hblock]
    split
    · rename_i hnested
      rw [if_pos hnested] at hglobal
      exact up_eq_global_iff.mp hglobal
    · rename_i hnested
      rw [if_neg hnested] at hglobal
      exact (eq_global_iff hstays.1.1.final).mp hglobal
  · rintro ⟨hstays, hdepth⟩
    rw [hblock] at hstays hdepth
    -- the derived exit leaves exactly the sub-mode that the block ended in
    have hend : Ios.final .global (commandWords body ++
        commandWords (if body.any entersSubcontext then [("exit" : Text)] else [])) = .global := by
      rw [Ios.final_append]
      split
      · rename_i hnested
        rw [if_pos hnested] at hdepth
        rw [commandWords_exit, Ios.final_cons, Ios.final_nil, after_exit]
        exact up_eq_global_iff.mpr hdepth
      · rename_i hnested
        rw [if_neg hnested] at hdepth
        exact (eq_global_iff hstays.final).mpr hdepth
    obtain ⟨hrun, -, hdo⟩ := @Ios.run_do .global (commandWords clears) rfl
    have hexit : Ios.run (Ios.final .global (commandWords body))
        (commandWords (if body.any entersSubcontext then [("exit" : Text)] else [])) = [] := by
      split
      · rw [commandWords_exit, Ios.run, events_exit]
        rfl
      · rfl
    constructor
    case run =>
      rw [← commandWords_map_trim commands, hsplit, run_envelope hclears, commandWords_sent,
        Ios.run_append, hend, hrun, Ios.run_append, hexit, List.append_nil]
    case stays =>
      rw [commandWords_sent, Ios.staysInConfig_append, hend]
      refine ⟨?_, hdo⟩
      rw [Ios.staysInConfig_append]
      refine ⟨hstays, ?_⟩
      split
      · rename_i hnested
        rw [if_pos hnested] at hdepth
        rw [commandWords_exit]
        refine ⟨hstays.final, ?_⟩
        rw [Ios.StaysInConfig, after_exit, up_eq_global_iff.mpr hdepth]
        rfl
      · exact hstays.final
    case final =>
      rw [hfinal]
      split
      · rename_i hnested
        rw [if_pos hnested] at hdepth
        exact up_eq_global_iff.mpr hdepth
      · rename_i hnested
        rw [if_neg hnested] at hdepth
        exact (eq_global_iff hstays.final).mpr hdepth

/-- A peer that is shut down, and cleared. -/
def shutdownPeer : List Text :=
  ["configure terminal", "router bgp 65000", "neighbor 192.0.2.1 shutdown", "end",
    "clear ip bgp 192.0.2.1 soft out"]

/-- Its plan is preserved. -/
theorem shutdownPeer_preserves : Preserves shutdownPeer ["router bgp 65000",
    "neighbor 192.0.2.1 shutdown", "exit", "do clear ip bgp 192.0.2.1 soft out"] :=
  (lockedCommands_preserves_iff (by decide +kernel)).mpr ⟨by decide +kernel, by decide +kernel⟩

/-- A static route, typed under an interface. -/
def routeUnderInterface : List Text :=
  ["configure terminal", "interface Gi0/0", "shutdown", "ip route 192.0.2.0 255.255.255.0 Null0",
      "end"]

/-- The route is a global command, so the `exit` of its plan leaves the configuration. -/
theorem not_preserves_routeUnderInterface : ∃ out, acceptedPlan routeUnderInterface = .ok out ∧
    Ios.final .global (commandWords out) = .exec ∧ ¬Preserves routeUnderInterface out := by
  refine ⟨["interface Gi0/0", "shutdown", "ip route 192.0.2.0 255.255.255.0 Null0", "exit"],
    by decide +kernel, by decide +kernel, fun h => ?_⟩
  exact absurd h.final (by decide +kernel)

end Rerouter
