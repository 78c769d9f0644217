import Rerouter.SessionReads

/-!
# A session in step with its router

Whatever arrives, a session sends the commands of its plan in their order and stops at the first
that fails, and what it reports accounts for every line it sent (`Rerouter.Shell.runOn_reports`).
Which answer a command is given is another matter. A router whose lines do not start with its own
prompt is in step with the session wherever its answers are cut between characters, and then the
answer to a command is the answer to this command (`Rerouter.Shell.run_inStep`). By induction over
the plan the session is the one the executor's model has, `Rerouter.LockedPort.runPlan`, with the
bodies of the answers for replies (`Rerouter.Shell.runOn_inStep`).
-/

namespace Rerouter.Shell

open Text Framing Utf8

/-! ### What is sent -/

section Sent

variable (wire : Wire)

theorem exchange_sent (s : IosSession) (line : Text) :
    (s.exchange wire line).2.sent = s.sent ++ [line] := by
  unfold IosSession.exchange
  split <;> rfl

theorem run_sent (s : IosSession) (command : Text) :
    (s.run wire command).2.sent = s.sent ++ [command] ∨
      (wire.expired s.sent = true ∧ s.run wire command = (.error (.expired command), s)) := by
  unfold IosSession.run
  split_ifs with hexpired
  · exact Or.inr ⟨hexpired, rfl⟩
  · exact Or.inl (exchange_sent wire s command)

/-- A result is one of the command. -/
theorem run_ok {s : IosSession} {command : Text} {result : CommandResult}
    (h : (s.run wire command).1 = .ok result) :
    result.command = command ∧ (s.run wire command).2.sent = s.sent ++ [command] := by
  unfold IosSession.run at h ⊢
  split_ifs at h ⊢
  obtain ⟨raw, -, hchecked⟩ := bind_eq_ok.mp h
  refine ⟨?_, exchange_sent wire s command⟩
  unfold checked at hchecked
  split at hchecked
  · cases hchecked
  · rw [← Except.ok.inj hchecked]

/-- What the results and the lines sent are, when a plan has been run from some results on. -/
def Accounts (sent : List Text) (completed : List CommandResult) (commands : List Text) :
    Except PlanFailure (List CommandResult) → List Text → Prop
  | .ok results, sent' =>
    results.map CommandResult.command = completed.map CommandResult.command ++ commands ∧
      sent' = sent ++ commands
  | .error f, sent' =>
    ∃ done rest, commands = done ++ f.failedCommand :: rest ∧
      f.completed.map CommandResult.command = completed.map CommandResult.command ++ done ∧
      (sent' = sent ++ done ∨ sent' = sent ++ done ++ [f.failedCommand])

/-- **What a session reports accounts for what it sent.** -/
theorem runCommands_sent (commands : List Text) (s : IosSession) (completed : List CommandResult) :
    Accounts s.sent completed commands (s.runCommands wire completed commands).1
      (s.runCommands wire completed commands).2.sent := by
  induction commands generalizing s completed with
  | nil => exact ⟨(List.append_nil _).symm, (List.append_nil _).symm⟩
  | cons command commands ih =>
    rw [IosSession.runCommands]
    rcases hrun : s.run wire command with ⟨outcome, s'⟩
    cases outcome with
    | ok result =>
      obtain ⟨hcommand, hsent⟩ := run_ok wire (show (s.run wire command).1 = .ok result by
        rw [hrun])
      rw [hrun] at hsent
      have hrest := ih s' (completed ++ [result])
      simp only at hsent ⊢
      revert hrest
      rcases s'.runCommands wire (completed ++ [result]) commands with ⟨outcome, s''⟩
      cases outcome with
      | ok results =>
        rintro ⟨hresults, hlast⟩
        refine ⟨?_, ?_⟩
        · rw [hresults, List.map_append, List.map_singleton, hcommand, List.append_assoc]
          rfl
        · rw [hlast, hsent, List.append_assoc]
          rfl
      | error f =>
        rintro ⟨done, rest, hsplit, hcompleted, hlast⟩
        refine ⟨command :: done, rest, by rw [hsplit]; rfl, ?_, ?_⟩
        · rw [hcompleted, List.map_append, List.map_singleton, hcommand, List.append_assoc]
          rfl
        · simpa [hsent] using hlast
    -- the command that failed was sent, or the session was closed before it
    | error e =>
      refine ⟨[], commands, rfl, by simp [sessionFailure, redactResults], ?_⟩
      rcases run_sent wire s command with hsent | ⟨-, hsame⟩
      · rw [hrun] at hsent
        exact Or.inr (by rw [List.append_nil]; exact hsent)
      · rw [hrun] at hsame
        exact Or.inl (by simp [(Prod.mk.inj hsame).2])

end Sent

/-! ### A router whose answers cannot be mistaken -/

/-- A router: what it prints, given the lines it was sent so far. No line of its greeting starts
with a prompt, and no line of an answer with one of its own. -/
structure Router where
  host : Host
  greeting : List Text
  body : List Text → List Text
  mode : List Text → Mode
  greeting_clear : ∀ line ∈ greeting, '\n' ∉ line ∧ Clear (fun _ => true) line
  body_clear : ∀ sent, ∀ line ∈ body sent,
    '\n' ∉ line ∧ line.getLast? ≠ some '\r' ∧ Clear (isOf host.text) line

/-- What it prints when a session begins. -/
def Router.banner (router : Router) : Text :=
  answerText router.greeting (promptText router.host (router.mode []))

/-- What it prints when it was sent a line: the line, the answer to it, and a prompt. -/
def Router.answer (router : Router) (sent : List Text) (line : Text) : Text :=
  answerText (line :: router.body (sent ++ [line]))
    (promptText router.host (router.mode (sent ++ [line])))

/-- What the output of a command is taken for. -/
def replyTo (command output : Text) : SessionReply :=
  match Drift.ciscoDenied output with
  | some marker => .rejected ("IOS rejected " ++ debugText command ++ ": " ++ marker)
  | none => .output output

/-- What the answer to a line is taken for. -/
def Router.reply (router : Router) (sent : List Text) (line : Text) : SessionReply :=
  replyTo line (bodyText (router.body (sent ++ [line])))

/-- What a command ends with is what an executor is told about it. -/
inductive Tells (command : Text) : Except RunError CommandResult → SessionReply → Prop
  | output (output : Text) : Tells command (.ok ⟨command, output⟩) (.output output)
  | error (e : RunError) : Tells command (.error e) e.reply

/-- The channel delivers what the router prints, in pieces and in time, with anything in between
that has no text: cut anywhere, where it is ASCII, and between characters else. -/
structure Router.OnWire (router : Router) (wire : Wire) : Prop where
  banner : Delivers wire.banner router.banner
  answers : ∀ sent line, ∃ arrivals, wire.arrives (sent ++ [line]) = .ok arrivals ∧
    Delivers arrivals (router.answer sent line)
  inBudget : ∀ sent, wire.expired sent = false

/-- The session is with the router, and no text is left to be read. -/
structure InStep (router : Router) (s : IosSession) : Prop where
  host : s.hostname = router.host.text
  read : Delivers s.inbox []

/-- A command that can be sent as it is. -/
structure Sendable (command : Text) : Prop where
  allowed : commandAllowed command = true
  trimmed : trim command = command

section InStep

variable {router : Router} {wire : Wire} {s : IosSession} {line command : Text}

theorem Sendable.line_ok (h : Sendable command) :
    '\n' ∉ command ∧ command.getLast? ≠ some '\r' := by
  have hcontrol : ∀ c ∈ command, isControl c = false := by
    have hallowed := h.allowed
    rw [commandAllowed, h.trimmed, Bool.and_eq_true, Bool.not_eq_true', blank,
      Bool.or_eq_false_iff, List.any_eq_false] at hallowed
    exact fun c hc => Bool.eq_false_of_not_eq_true (hallowed.1.2 c hc)
  refine ⟨fun hc => ?_, fun hlast => ?_⟩
  · cases hcontrol '\n' hc
  · cases hcontrol '\r' (List.mem_of_getLast? hlast)

theorem tells_checked {raw output : Text} (h : cleanOutput raw command = output) :
    Tells command (checked command raw) (replyTo command output) := by
  rw [checked, h, replyTo]
  cases Drift.ciscoDenied output with
  | none => exact .output output
  | some marker => exact .error (.rejected command (Redaction.redactDeviceOutput output) marker)

theorem isOf_tailPrompt (router : Router) (sent : List Text) (line : Text) :
    promptMatcher router.host.text (router.answer sent line) = true := by
  rw [promptMatcher, Router.answer, tailPrompt_answerText, Option.any_some, isOf_promptText]

/-- **A line in step**: the answer to it is read, and all of it. -/
theorem exchange_inStep (hwire : router.OnWire wire) (hs : InStep router s)
    (hnewline : '\n' ∉ line) (hclear : Clear (isOf router.host.text) line) :
    ∃ left, Delivers left [] ∧ s.exchange wire line =
      (.ok (router.answer s.sent line), ⟨router.host.text, s.sent ++ [line], left⟩) := by
  obtain ⟨arrivals, harrives, hdelivers⟩ := hwire.answers s.sent line
  have hlines : ∀ l ∈ line :: router.body (s.sent ++ [line]), '\n' ∉ l :=
    List.forall_mem_cons.mpr ⟨hnewline, fun l hl => (router.body_clear _ l hl).1⟩
  have huncut : Uncut (promptMatcher router.host.text) (router.answer s.sent line) := by
    refine (uncut_answerText_iff hlines (newline_not_mem_promptText _ _)).mpr ⟨?_, ?_⟩
    · exact List.forall_mem_cons.mpr ⟨hclear, fun l hl => (router.body_clear _ l hl).2.2⟩
    · exact fun t ht hne => promptHere_of_prefix ht hne
  obtain ⟨left, hleft, hread⟩ := readUntil_of_uncut huncut (hs.read.append hdelivers)
  refine ⟨left, hleft, ?_⟩
  rw [IosSession.exchange, harrives, hs.host]
  simp only [hread, finishQuietRead, isOf_tailPrompt, if_pos, Except.mapError]

/-- **A command in step** is given the answer to it. -/
theorem run_inStep (hwire : router.OnWire wire) (hs : InStep router s)
    (hcommand : Sendable command) :
    InStep router (s.run wire command).2 ∧
      (s.run wire command).2.sent = s.sent ++ [command] ∧
      Tells command (s.run wire command).1 (router.reply s.sent command) := by
  obtain ⟨hnewline, hcr⟩ := hcommand.line_ok
  obtain ⟨left, hleft, hexchange⟩ := exchange_inStep hwire hs hnewline
    (clear_of_allowed hcommand.allowed)
  have hclean : cleanOutput (router.answer s.sent command) command =
      bodyText (router.body (s.sent ++ [command])) := by
    refine cleanOutput_answerText _ _ (List.forall_mem_cons.mpr ⟨⟨hnewline, hcr⟩, ?_⟩)
    exact fun l hl => ⟨(router.body_clear _ l hl).1, (router.body_clear _ l hl).2.1⟩
  have hrun : s.run wire command = (checked command (router.answer s.sent command),
      ⟨router.host.text, s.sent ++ [command], left⟩) := by
    simp only [IosSession.run, hwire.inBudget, hexchange, Except.bind, Bool.false_eq_true, if_false]
  have htells : Tells command (checked command (router.answer s.sent command))
      (router.reply s.sent command) := by
    rw [Router.reply]
    exact tells_checked hclean
  rw [hrun]
  refine ⟨⟨rfl, hleft⟩, rfl, ?_⟩
  dsimp only
  exact htells

theorem clear_disablePaging (kind : Text → Bool) : Clear kind disablePaging :=
  clear_of_allowed (by decide +kernel)

/-- **A session opens in step.** -/
theorem openSession_inStep (hwire : router.OnWire wire) :
    ∃ s, InStep router s ∧ s.sent = [disablePaging] ∧
      openSession wire = (.ok s, [disablePaging]) := by
  have huncut : Uncut (ends fun _ => true) router.banner := by
    refine (uncut_answerText_iff (fun l hl => (router.greeting_clear l hl).1)
      (newline_not_mem_promptText _ _)).mpr ⟨?_, ?_⟩
    · exact fun l hl => (router.greeting_clear l hl).2
    · exact fun t ht hne => promptHere_of_prefix ht hne
  have htail : tailPrompt router.banner = some (promptText router.host (router.mode [])) :=
    tailPrompt_answerText _ _ _
  have hkind : (fun buf => (tailPrompt buf).isSome) = ends fun _ => true := by
    funext buf
    rw [ends]
    cases tailPrompt buf <;> rfl
  obtain ⟨inbox, hinbox, hread⟩ := readUntil_of_uncut huncut hwire.banner
  have hopen : InStep router ⟨router.host.text, [], inbox⟩ := ⟨rfl, hinbox⟩
  obtain ⟨left, hleft, hexchange⟩ := exchange_inStep hwire hopen
    (show '\n' ∉ disablePaging by decide) (clear_disablePaging _)
  refine ⟨⟨router.host.text, [disablePaging], left⟩, ⟨rfl, hleft⟩, rfl, ?_⟩
  have hlast : (promptText router.host (router.mode [])).getLast? = some '#' := List.getLast?_concat
  have hends : ends (fun _ => true) router.banner = true := by rw [ends, htail]; rfl
  rw [openSession, hkind, hread, finishQuietRead, if_pos hends]
  simp only [htail, Option.getD_some, hlast, promptHostname_promptText]
  rw [if_neg (by decide), hexchange, List.nil_append]

end InStep

/-! ### Plans -/

/-- The commands that a device was given. -/
def commandsOf (device : ℕ) (h : History) : List Text :=
  (h.filter fun x => x.device = device).map Exchange.command

/-- The locked set of some routers, as the executor has it. -/
def lockedPort (routers : ℕ → Router) : LockedPort where
  inBudget _ := true
  holds _ := true
  reply h device command := (routers device).reply (commandsOf device h) command

/-- What a session returns is what the executor's model returns, with the outputs of the failed
plan redacted. -/
def Carries : Except RunOnError (List CommandResult) →
    Except ExecutionError (List CommandResult) → Prop
  | .ok results, .ok results' => results = results'
  | .error (.plan f), .error (.plan f') =>
    f.toSshPlanFailure = { f' with completed := redactResults f'.completed }
  | _, _ => False

theorem commandsOf_append (device : ℕ) (h : History) (command : Text) (reply : SessionReply)
    (planned : Bool) :
    commandsOf device (h ++ [⟨device, command, reply, planned⟩]) =
      commandsOf device h ++ [command] := by
  simp [commandsOf]

/-- **A plan in step** is the plan of the executor's model. -/
theorem runCommands_inStep {routers : ℕ → Router} {device : ℕ} {wire : Wire}
    (hwire : (routers device).OnWire wire) {commands : List Text}
    (hcommands : ∀ command ∈ commands, Sendable command) {s : IosSession} {h : History}
    (hs : InStep (routers device) s) (hsent : s.sent = commandsOf device h)
    (completed : List CommandResult) :
    Carries ((s.runCommands wire completed commands).1.mapError .plan)
        ((lockedPort routers).runPlan device completed commands h).1 ∧
      (s.runCommands wire completed commands).2.sent =
        commandsOf device ((lockedPort routers).runPlan device completed commands h).2 := by
  induction commands generalizing s h completed with
  | nil => exact ⟨rfl, hsent⟩
  | cons command commands ih =>
    obtain ⟨hnext, hnextSent, htells⟩ :=
      run_inStep hwire hs (hcommands command List.mem_cons_self)
    have hreply : (lockedPort routers).reply h device command =
        (routers device).reply s.sent command := by
      simp only [lockedPort, hsent]
    rw [IosSession.runCommands, LockedPort.runPlan, hreply]
    revert hnext hnextSent htells
    rcases s.run wire command with ⟨outcome, s'⟩
    intro hnext hnextSent htells
    dsimp only at hnext hnextSent htells ⊢
    generalize (routers device).reply s.sent command = reply at htells ⊢
    cases htells with
    -- the session goes on, in step again behind the answer
    | output output =>
      refine ih (fun c hc => hcommands c (List.mem_cons_of_mem _ hc)) hnext ?_ _
      rw [hnextSent, hsent, commandsOf_append]
    | error e =>
      have hlast : ∀ reply, s'.sent = commandsOf device (h ++ [⟨device, command, reply, true⟩]) :=
        fun reply => by rw [hnextSent, hsent, commandsOf_append]
      cases e <;> exact ⟨rfl, hlast _⟩

/-- What was exchanged when a session has opened. -/
def opened (routers : ℕ → Router) (device : ℕ) : History :=
  [⟨device, disablePaging, (routers device).reply [] disablePaging, false⟩]

/-- **A session with a router whose answers cannot be mistaken** does for every cut of the answers
what the executor's model does with their bodies, and what it sends are the commands of the
model's history. -/
theorem runOn_inStep {routers : ℕ → Router} {device : ℕ} {wire : Wire}
    (hwire : (routers device).OnWire wire) {commands : List Text}
    (hallowed : checkAllowed commands = .ok ())
    (htrim : ∀ command ∈ commands, trim command = command) :
    Carries (runOn wire commands).1
        ((lockedPort routers).runPlan device [] commands (opened routers device)).1 ∧
      (runOn wire commands).2 =
        commandsOf device
          ((lockedPort routers).runPlan device [] commands (opened routers device)).2 ++
            [("exit" : Text)] := by
  obtain ⟨s, hs, hsent, hopen⟩ := openSession_inStep hwire
  have hsendable : ∀ command ∈ commands, Sendable command := fun command hmem =>
    ⟨(Allowed.checkAllowed_eq_ok hallowed).1 command hmem, htrim command hmem⟩
  have hopened : s.sent = commandsOf device (opened routers device) := by
    rw [hsent]
    simp [commandsOf, opened]
  obtain ⟨hcarries, hlast⟩ := runCommands_inStep hwire hsendable hs hopened []
  rw [runOn, hallowed, hopen]
  exact ⟨hcarries, congrArg (· ++ [("exit" : Text)]) hlast⟩

/-! ### What is reported -/

/-- What was sent when a session opens, or does not. -/
def OpenSent : Except Text IosSession × List Text → Prop
  | (.ok s, _) => s.sent = [disablePaging]
  | (.error _, sent) => sent = [] ∨ sent = [disablePaging]

theorem openSession_sent (wire : Wire) : OpenSent (openSession wire) := by
  unfold openSession
  rcases readUntil (fun buf => (tailPrompt buf).isSome) [] wire.banner with ⟨read, inbox⟩
  cases read with
  | error e => exact Or.inl rfl
  | ok banner =>
    dsimp only
    split_ifs
    · exact Or.inl rfl
    · have hsent := exchange_sent wire ⟨promptHostname ((tailPrompt banner).getD []), [], inbox⟩
        disablePaging
      revert hsent
      rcases IosSession.exchange wire _ disablePaging with ⟨outcome, s⟩
      cases outcome with
      | error e => exact fun hsent => Or.inr hsent
      | ok raw => exact fun hsent => hsent

/-- What a session reports, and the lines that it sent. -/
def Reports (commands : List Text) :
    Except RunOnError (List CommandResult) × List Text → Prop
  | (.ok results, sent) =>
    results.map CommandResult.command = commands ∧
      sent = disablePaging :: commands ++ [("exit" : Text)]
  | (.error (.other _), sent) => sent = [] ∨ sent = [disablePaging]
  | (.error (.plan f), sent) =>
    ∃ done rest, commands = done ++ f.failedCommand :: rest ∧
      f.completed.map CommandResult.command = done ∧
      (sent = disablePaging :: done ++ [("exit" : Text)] ∨
        sent = disablePaging :: done ++ [f.failedCommand] ++ [("exit" : Text)])

/-- **Whatever arrives**, a session sends nothing but its opening, or the opening, a beginning of
the plan and the `exit`, and it reports what it sent. -/
theorem runOn_reports (wire : Wire) (commands : List Text) :
    Reports commands (runOn wire commands) := by
  have hopen := openSession_sent wire
  unfold runOn
  cases checkAllowed commands with
  -- a plan that is not allowed opens no session
  | error e => exact Or.inl rfl
  | ok _ =>
    revert hopen
    rcases openSession wire with ⟨outcome, sent⟩
    intro hopen
    cases outcome with
    | error e => exact hopen
    | ok s =>
      have hran := runCommands_sent wire commands s []
      have hsent : s.sent = [disablePaging] := hopen
      rw [hsent] at hran
      dsimp only
      revert hran
      rcases s.runCommands wire [] commands with ⟨outcome, s'⟩
      cases outcome with
      | ok results =>
        rintro ⟨hresults, hlast⟩
        exact ⟨hresults, congrArg (· ++ [("exit" : Text)]) hlast⟩
      | error f =>
        rintro ⟨done, rest, hsplit, hcompleted, hlast⟩
        refine ⟨done, rest, hsplit, hcompleted, ?_⟩
        exact hlast.imp (congrArg (· ++ [("exit" : Text)])) (congrArg (· ++ [("exit" : Text)]))

/-! ### A router that can be run -/

/-- A text that comes in two pieces, with a message in between that has none. -/
def cut (n : ℕ) (text : Text) : List Arrival :=
  [.message (.data (encode (text.take n))) false, .message .other false,
    .message (.data (encode (text.drop n))) false]

/-- The channel that cuts everything a router prints behind its `n`-th character. -/
def Router.cutWire (router : Router) (n : ℕ) : Wire where
  banner := cut n router.banner
  arrives sent := .ok (cut n (router.answer sent.dropLast (sent.getLast?.getD [])))
  expired _ := false

theorem delivers_cut (n : ℕ) (text : Text) : Delivers (cut n text) text := by
  have hjoined : joined [⟨text.take n, true⟩, ⟨[], false⟩, ⟨text.drop n, true⟩] = text := by simp
  have hwhole : Delivers (cut n text) (joined [⟨text.take n, true⟩, ⟨[], false⟩,
      ⟨text.drop n, true⟩]) := delivers_of_whole rfl
  rwa [hjoined] at hwhole

theorem onWire_cutWire (router : Router) (n : ℕ) : router.OnWire (router.cutWire n) where
  banner := delivers_cut n router.banner
  answers sent line := ⟨_, rfl, by simpa using delivers_cut n (router.answer sent line)⟩
  inBudget _ := rfl

/-- A router that tells the time. -/
def clock : Router where
  host := edge
  greeting := []
  body sent := if sent.getLast? = some ("show clock" : Text) then [("edge-1 says 12:00" : Text)]
    else []
  mode _ := execMode
  greeting_clear := by simp
  body_clear := by
    intro sent line hline
    split_ifs at hline
    · rw [List.mem_singleton.mp hline]
      decide +kernel
    · exact absurd hline List.not_mem_nil

theorem runOn_inStep_clock :
    Carries (runOn (clock.cutWire 7) [("show clock" : Text)]).1
        ((lockedPort fun _ => clock).runPlan 0 [] [("show clock" : Text)]
          (opened (fun _ => clock) 0)).1 ∧
      (runOn (clock.cutWire 7) [("show clock" : Text)]).2 =
        commandsOf 0
          ((lockedPort fun _ => clock).runPlan 0 [] [("show clock" : Text)]
            (opened (fun _ => clock) 0)).2 ++ [("exit" : Text)] :=
  @runOn_inStep (fun _ => clock) 0 _ (onWire_cutWire clock 7) _ (by decide +kernel)
    (by decide +kernel)

end Rerouter.Shell
