import Mathlib.Data.List.DropRight
import Rerouter.AllowedCommands
import Rerouter.DiscoveryRun
import Rerouter.Lib.Framing
import Rerouter.Lib.Utf8
import Rerouter.PreparedExecution
import Rerouter.Redaction

/-!
# One session on the wire

A router does not say how long its answer to a command is. `Rerouter.Shell.readUntil` puts what
arrives together until its last line is a prompt of the router (`Rerouter.Shell.promptMatcher`),
and what is left behind stays in front of the next answer. So a line of an answer that starts
with what looks like the prompt can end the read too early, and then every later command is given
the answer of an earlier one. It depends on where the transport cuts the answer. What it cuts are
bytes, and each message is made a text on its own, so that a character that is cut in two is lost
as well. An answer is read whole for every cut of its bytes exactly if no line above its prompt
starts with one, and all of it is ASCII (`Rerouter.Shell.readUntil_answerText_iff`). Two facts about
the commands help: no prompt stands in the echo of a command of the allowlist
(`Rerouter.Shell.clear_of_allowed`), and no answer starts in the middle of another.

A router whose answers have no such line is in step with its session for every cut between
characters, whatever arrives between the pieces: `Rerouter.Shell.runOn` then does what
`Rerouter.LockedPort.runPlan` does with the bodies of the answers
(`Rerouter.Shell.runOn_inStep`), which is what the executor's results are about.
-/

namespace Rerouter.Shell

open Text Utf8

/-! ### Reading -/

/-- `ChannelMsg`. -/
inductive ChannelMsg where
  | data (data : List UInt8)
  | extendedData (data : List UInt8)
  | eof
  | close
  /-- Any other message. -/
  | other
deriving DecidableEq

/-- What a wait on the channel ends with. -/
inductive Arrival where
  /-- A message, and whether a time budget is used up when it has been dealt with. -/
  | message (msg : ChannelMsg) (late : Bool)
  /-- The channel is gone. -/
  | ended
  /-- Nothing came for `READ_CHUNK_TIMEOUT`. -/
  | quiet
deriving DecidableEq

/-- `IncompleteResponse`. -/
structure IncompleteResponse where
  received : Text
  reason : Text
deriving DecidableEq

/-- `str::len`: the bytes of a text. -/
def byteLen (s : Text) : ℕ := s.foldr (fun c n => c.utf8Size + n) 0

/-- The text of the error. -/
def IncompleteResponse.text (e : IncompleteResponse) : Text :=
  e.reason ++ " (" ++ natText (byteLen e.received) ++ (" partial bytes)" : Text)

/-- `finish_closed_read`. -/
def finishClosedRead (buf : Text) (done : Text → Bool) : Except IncompleteResponse Text :=
  if done buf then .ok buf
  else .error ⟨buf, "SSH channel closed before the device returned to its prompt"⟩

/-- What has come, when nothing more comes. -/
def finishQuietRead (buf : Text) (done : Text → Bool) : Except IncompleteResponse Text :=
  if done buf then .ok buf else .error ⟨buf, "timed out waiting for device prompt"⟩

/-- A budget is used up. -/
def overBudget (buf : Text) : Except IncompleteResponse Text :=
  .error ⟨buf, "device did not return to a prompt within the time budget"⟩

/-- `read_until`, and what is left behind. Where nothing more arrives, it is quiet. Each message is
made a text on its own. -/
def readUntil (done : Text → Bool) (buf : Text) :
    List Arrival → Except IncompleteResponse Text × List Arrival
  | [] => (finishQuietRead buf done, [])
  | .quiet :: arrivals => (finishQuietRead buf done, arrivals)
  | .ended :: arrivals => (finishClosedRead buf done, arrivals)
  | .message .eof _ :: arrivals => (finishClosedRead buf done, arrivals)
  | .message .close _ :: arrivals => (finishClosedRead buf done, arrivals)
  | .message (.data data) late :: arrivals =>
    if done (buf ++ fromUtf8Lossy data) then (.ok (buf ++ fromUtf8Lossy data), arrivals)
    else if late then (overBudget (buf ++ fromUtf8Lossy data), arrivals)
    else readUntil done (buf ++ fromUtf8Lossy data) arrivals
  | .message (.extendedData data) late :: arrivals =>
    if late then (overBudget (buf ++ fromUtf8Lossy data), arrivals)
    else readUntil done (buf ++ fromUtf8Lossy data) arrivals
  | .message .other late :: arrivals =>
    if late then (overBudget buf, arrivals) else readUntil done buf arrivals

/-! ### Prompts -/

/-- Text without a blank that ends in `#` or `>`. -/
def isPrompt (last : Text) : Bool :=
  decide (2 ≤ byteLen last) && decide (' ' ∉ last) &&
    (last.getLast? == some '#' || last.getLast? == some '>')

/-- `tail_prompt`. -/
def tailPrompt (buf : Text) : Option Text :=
  match (lines (buf.rdropWhile fun c => decide (c ∈ [' ', '\r', '\n']))).getLast? with
  | none => none
  | some last => if isPrompt (trim last) then some (trim last) else none

/-- `prompt_hostname`. -/
def promptHostname (prompt : Text) : Text :=
  (prompt.rdropWhile fun c => decide (c ∈ ['#', '>'])).takeWhile fun c => decide (c ≠ '(')

/-- Whether a prompt is one of a router. -/
def isOf (hostname prompt : Text) : Bool :=
  decide (promptHostname prompt = hostname) && !hostname.isEmpty

/-- `prompt_matcher`. -/
def promptMatcher (hostname buf : Text) : Bool := (tailPrompt buf).any (isOf hostname)

/-- The lines of an answer that its end is stripped of. -/
def isTail (line : Text) : Bool := (trim line).isEmpty || isPrompt (trim line)

/-- The answer without the echo of its command. -/
def withoutEcho (command : Text) : List Text → List Text
  | [] => []
  | line :: rest => if trim line = trim command then rest else line :: rest

/-- `clean_output`. -/
def cleanOutput (raw command : Text) : Text :=
  let pieces := (raw.splitOn '\n').map fun l => l.rdropWhile fun c => decide (c = '\r')
  trim (List.intercalate ("\n" : Text) ((withoutEcho command pieces).rdropWhile isTail))

/-! ### The session -/

/-- A channel to a router: what arrives before anything is sent, and what arrives when a line was
sent, given the lines so far. A line cannot be sent at all where the channel is gone. -/
structure Wire where
  banner : List Arrival
  arrives : List Text → Except Text (List Arrival)
  /-- Whether the budget of the session is used up before a line is sent. -/
  expired : List Text → Bool

/-- `IosSession`: with the lines that were sent, and what arrived and was not read. -/
structure IosSession where
  hostname : Text
  sent : List Text
  inbox : List Arrival

/-- What a command fails with. -/
inductive RunError where
  | expired (command : Text)
  | send (reason : Text)
  | incomplete (response : IncompleteResponse)
  /-- `CommandRejected`. -/
  | rejected (command output marker : Text)

/-- The text of the error. -/
def RunError.text : RunError → Text
  | expired command =>
    "SSH session exceeded its time budget before '" ++ command ++ ("'" : Text)
  | send reason => "sending command over SSH: " ++ reason
  | incomplete response => response.text
  | rejected command _ marker => "IOS rejected " ++ debugText command ++ ": " ++ marker

/-- What an executor is told about a command. -/
def RunError.reply (e : RunError) : SessionReply :=
  match e with
  | rejected .. => .rejected e.text
  | expired .. => .failed false e.text
  | send .. => .failed true e.text
  | incomplete .. => .failed true e.text

/-- `send_line`, and a read up to the prompt. -/
def IosSession.exchange (wire : Wire) (s : IosSession) (line : Text) :
    Except RunError Text × IosSession :=
  match wire.arrives (s.sent ++ [line]) with
  | .error e => (.error (.send e), { s with sent := s.sent ++ [line] })
  | .ok arrivals =>
    let read := readUntil (promptMatcher s.hostname) [] (s.inbox ++ arrivals)
    (read.1.mapError .incomplete, { s with sent := s.sent ++ [line], inbox := read.2 })

/-- What is made of an answer. -/
def checked (command raw : Text) : Except RunError CommandResult :=
  match Drift.ciscoDenied (cleanOutput raw command) with
  | some marker =>
    .error (.rejected command (Redaction.redactDeviceOutput (cleanOutput raw command)) marker)
  | none => .ok ⟨command, cleanOutput raw command⟩

/-- `run`. -/
def IosSession.run (wire : Wire) (s : IosSession) (command : Text) :
    Except RunError CommandResult × IosSession :=
  if wire.expired s.sent then (.error (.expired command), s)
  else
    let exchanged := s.exchange wire command
    (exchanged.1.bind (checked command), exchanged.2)

/-- Where an account without privileges ends up. -/
def userExec (prompt : Text) : Text :=
  "SSH account logged in at user-EXEC ('" ++ prompt ++
    ("'), not enable mode ('#'). Rerouter needs privileged EXEC and cannot supply an " : Text) ++
    ("enable password on a non-interactive session — give the account privilege 15 " : Text) ++
    ("so it logs straight into '#' (e.g. `username <user> privilege 15 …`)." : Text)

/-- What every session starts with. -/
def disablePaging : Text := "terminal length 0"

/-- `open`, from the banner on, and the lines that were sent. -/
def openSession (wire : Wire) : Except Text IosSession × List Text :=
  match readUntil (fun buf => (tailPrompt buf).isSome) [] wire.banner with
  | (.error e, _) => (.error e.text, [])
  | (.ok banner, inbox) =>
    let basePrompt := (tailPrompt banner).getD []
    if basePrompt.getLast? == some '>' then (.error (userExec basePrompt), [])
    else
      let exchanged :=
        (⟨promptHostname basePrompt, [], inbox⟩ : IosSession).exchange wire disablePaging
      match exchanged.1 with
      | .error e => (.error e.text, exchanged.2.sent)
      | .ok _ => (.ok exchanged.2, exchanged.2.sent)

/-- `redact_results`. -/
def redactResults (results : List CommandResult) : List CommandResult :=
  results.map fun r => { r with output := Redaction.redactDeviceOutput r.output }

/-- `SshPlanFailure`, with what the failed command printed. -/
structure PlanFailure extends SshPlanFailure where
  failedOutput : Text

/-- What a failed command printed. -/
def RunError.output (command : Text) : RunError → Text
  | rejected _ output _ => output
  | incomplete response => Redaction.redactDeviceOutput (cleanOutput response.received command)
  | _ => []

/-- `plan_failure`. -/
def sessionFailure (completed : List CommandResult) (command : Text) (e : RunError) :
    PlanFailure :=
  { planFailure completed command e.reply with
    completed := redactResults completed
    failedOutput := e.output command }

/-- The commands of a plan, one by one. -/
def IosSession.runCommands (wire : Wire) :
    IosSession → List CommandResult → List Text →
      Except PlanFailure (List CommandResult) × IosSession
  | s, completed, [] => (.ok completed, s)
  | s, completed, command :: commands =>
    match s.run wire command with
    | (.ok result, s') => s'.runCommands wire (completed ++ [result]) commands
    | (.error e, s') => (.error (sessionFailure completed command e), s')

/-- What `run_on` fails with. -/
inductive RunOnError where
  | other (reason : Text)
  | plan (failure : PlanFailure)

/-- `run_on`, and the lines that were sent: `exit` is the last. -/
def runOn (wire : Wire) (commands : List Text) :
    Except RunOnError (List CommandResult) × List Text :=
  match checkAllowed commands with
  | .error e => (.error (.other e), [])
  | .ok () =>
    match openSession wire with
    | (.error e, sent) => (.error (.other e), sent)
    | (.ok session, _) =>
      let ran := session.runCommands wire [] commands
      (ran.1.mapError .plan, ran.2.sent ++ [("exit" : Text)])

end Rerouter.Shell
