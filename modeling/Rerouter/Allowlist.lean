import Rerouter.Lib.Ipv6
import Rerouter.PrefixList

/-!
# The commands that may be sent

The allowlist of `ssh/mod.rs`. A command is cut into words, and it has to be one of the shapes
the controller is designed to send (`Rerouter.allowedShapes`), every variable word of which is
checked; `show` may carry an output filter, and `do` may stand before a `show` and before the
soft clear of a BGP session. A list of commands has to be allowed command by command, and a bare
`shutdown` may stand under an interface only (`Rerouter.checkAllowed`).
-/

namespace Rerouter

open Text

/-! ### Words -/

/-- `u32::MAX`, as the greatest value of a number. -/
def maxU32 : ℕ := 4294967295

def isIpv4 (tok : Text) : Bool := (Ipv4.parseAddr tok).isSome

def isU32 (tok : Text) : Bool := (parseUnsigned maxU32 tok).isSome

/-- An address and a length, with a slash between them. -/
def isNetwork (address : Text → Bool) (maxLength : ℕ) (tok : Text) : Bool :=
  match splitOnce '/' tok with
  | some (ip, len) => address ip && (parseUnsigned 255 len).any fun l => l ≤ maxLength
  | none => false

def isCidr (tok : Text) : Bool := isNetwork isIpv4 32 tok

def isIpv6 (tok : Text) : Bool := Ipv6.isAddr tok

def isCidr6 (tok : Text) : Bool := isNetwork isIpv6 128 tok

def isPrefixListSeq (tok : Text) : Bool :=
  (parseUnsigned maxU32 tok).any fun n => minSeq ≤ n && n ≤ maxSeq

def isNameChar (c : Char) : Bool :=
  c.isAlphanum || decide (c ∈ ['/', '.', '_', ':', '-'])

/-- A bare config name token. -/
def isName (tok : Text) : Bool := !tok.isEmpty && tok.all isNameChar

/-- One word, as it is. -/
def word (s : String) (tok : Text) : Bool := decide (tok = s.toList)

/-- `matches!(*dir, "in" | "out")`. -/
def isDirection (tok : Text) : Bool := word "in" tok || word "out" tok

/-! ### Shapes -/

/-- The words of a command fit a shape. -/
def fits : List (Text → Bool) → List Text → Bool
  | [], [] => true
  | p :: ps, t :: ts => p t && fits ps ts
  | _, _ => false

/-- The session and the reads. -/
def readShapes : List (List (Text → Bool)) :=
  [[word "terminal", word "length", word "0"],
    [word "configure", word "terminal"],
    [word "configure", word "terminal", word "lock"],
    [word "end"], [word "exit"],
    [word "show", word "configuration", word "lock"],
    [word "show", word "clock"],
    [word "show", word "version"],
    [word "show", word "running-config"],
    [word "show", word "ip", word "route", word "summary"],
    [word "show", word "ip", word "route", isIpv4],
    [word "show", word "ipv6", word "route", word "summary"],
    [word "show", word "ipv6", word "route", fun a => isIpv6 a || isCidr6 a],
    [word "show", word "ip", word "bgp", word "summary"],
    [word "show", word "ip", word "bgp", fun a => isIpv4 a || isCidr a],
    [word "show", word "bgp", word "ipv6", word "unicast", isCidr6],
    [word "show", word "ip", word "bgp", word "neighbors", isIpv4],
    [word "show", word "ip", word "bgp", word "neighbors", isIpv4, word "advertised-routes"],
    [word "show", word "interfaces", isName],
    [word "show", word "running-config", word "interface", isName],
    [word "show", word "ip", word "prefix-list"],
    [word "show", word "ip", word "prefix-list", isName]]

/-- The routes to nowhere. -/
def routeShapes : List (List (Text → Bool)) :=
  [[word "ip", word "route", isIpv4, isIpv4, word "Null0"],
    [word "ip", word "route", isIpv4, isIpv4, word "Null0", word "name", isName],
    [word "ip", word "route", isIpv4, isIpv4, word "Null0", word "tag", isU32],
    [word "no", word "ip", word "route", isIpv4, isIpv4, word "Null0"],
    [word "no", word "ip", word "route", isIpv4, isIpv4, word "Null0", word "tag", isU32],
    [word "ipv6", word "route", isCidr6, word "Null0"],
    [word "ipv6", word "route", isCidr6, word "Null0", word "name", isName],
    [word "ipv6", word "route", isCidr6, word "Null0", word "tag", isU32],
    [word "no", word "ipv6", word "route", isCidr6, word "Null0"],
    [word "no", word "ipv6", word "route", isCidr6, word "Null0", word "tag", isU32]]

/-- The BGP sessions and their policies. -/
def bgpShapes : List (List (Text → Bool)) :=
  [[word "router", word "bgp", isU32],
    [word "address-family", word "ipv4"],
    [word "address-family", word "ipv4", word "unicast"],
    [word "exit-address-family"],
    [word "neighbor", isIpv4, word "shutdown"],
    [word "no", word "neighbor", isIpv4, word "shutdown"],
    [word "ip", word "prefix-list", isName, word "seq", isPrefixListSeq, word "permit", isCidr],
    [word "no", word "ip", word "prefix-list", isName, word "seq", isPrefixListSeq,
      word "permit", isCidr],
    [word "ip", word "prefix-list", isName, word "permit", isCidr],
    [word "no", word "ip", word "prefix-list", isName, word "permit", isCidr],
    [word "clear", word "ip", word "bgp", isIpv4, word "soft", isDirection],
    [word "neighbor", isIpv4, word "route-map", isName, isDirection],
    [word "no", word "neighbor", isIpv4, word "route-map", isName, isDirection],
    [word "neighbor", isIpv4, word "prefix-list", isName, word "out"],
    [word "no", word "neighbor", isIpv4, word "prefix-list", isName, word "out"]]

/-- The interfaces. -/
def interfaceShapes : List (List (Text → Bool)) :=
  [[word "interface", isName],
    [word "ip", word "tcp", word "adjust-mss", isU32],
    [word "no", word "ip", word "tcp", word "adjust-mss"],
    [word "shutdown"], [word "no", word "shutdown"]]

/-- Every shape. A word that fits an earlier shape of the same words fits it whole, so the order
does not matter. -/
def allowedShapes : List (List (Text → Bool)) :=
  readShapes ++ routeShapes ++ bgpShapes ++ interfaceShapes

/-! ### Commands -/

/-- The characters of an output filter. -/
def isFilterChar (c : Char) : Bool :=
  c.isAlphanum || decide (c ∈ [' ', '(', ')', '^', '|', '.', '_', ':', '/', '-', '=',
      '[', ']', '$'])

/-- An output filter, behind a `show`. -/
def filterAllowed (base filter : Text) : Bool :=
  startsWith "show " base &&
    decide ((splitWhitespace filter).headD [] ∈
      (["include", "exclude", "section", "begin", "count"] : List Text)) &&
    filter.all isFilterChar

/-- A byte of an ASCII control character. -/
def isControl (c : Char) : Bool := decide (c.toNat < 32) || decide (c.toNat = 127)

/-- `command_allowed`, of a command without `do`. -/
def plainAllowed (cmd : Text) : Bool :=
  match splitOnce '|' cmd with
  | none => allowedShapes.any fun shape => fits shape (splitWhitespace cmd)
  | some (base, filter) =>
    filterAllowed (trim base) (trim filter) &&
      allowedShapes.any fun shape => fits shape (splitWhitespace (trim base))

/-- What is no command at all. -/
def blank (cmd : Text) : Bool := cmd.isEmpty || cmd.any isControl

/-- `command_allowed`. What stands behind a `do` starts with `show `, so it has no `do` of its
own. -/
def commandAllowed (cmd : Text) : Bool :=
  !blank (trim cmd) &&
    match stripPrefix "do " (trim cmd) with
    | none => plainAllowed (trim cmd)
    | some inner =>
      (startsWith "show " inner && plainAllowed (trim inner)) ||
        fits [word "clear", word "ip", word "bgp", isIpv4, word "soft", isDirection]
          (splitWhitespace inner)

/-- Whether the command enters interface config, or leaves it. -/
def interfaceAfter (inInterface : Bool) (toks : List Text) : Bool :=
  if fits [word "interface", fun _ => true] toks then true
  else if fits [word "configure", word "terminal"] toks ||
      fits [word "configure", word "terminal", word "lock"] toks ||
      fits [word "router", word "bgp", fun _ => true] toks || fits [word "end"] toks ||
      fits [word "exit"] toks then false
  else inInterface

/-- A bare `shutdown`. -/
def bareShutdown (toks : List Text) : Bool :=
  fits [word "shutdown"] toks || fits [word "no", word "shutdown"] toks

/-- `sequence_safe`. -/
def sequenceSafe : Bool → List Text → Except Text Unit
  | _, [] => .ok ()
  | inInterface, c :: commands =>
    if bareShutdown (splitWhitespace c) && !inInterface then
      .error ("refusing '" ++ trim c ++
        ("' outside interface config (would affect more than the target interface)" : Text))
    else sequenceSafe (interfaceAfter inInterface (splitWhitespace c)) commands

/-- `check_allowed`. -/
def checkAllowed (commands : List Text) : Except Text Unit :=
  match commands.find? fun c => !commandAllowed c with
  | some c => .error ("refusing to send command not on the allowlist: " ++ debugText c)
  | none => sequenceSafe false commands

/-! ### The locked session -/

/-- The variables of `locked_commands`. -/
structure LockedState where
  out : List Text := []
  nested : Bool := false
  afterEnd : Bool := false
  enteredConfig : Bool := false
  endedConfig : Bool := false

/-- A command that goes one level down. -/
def entersSubcontext (command : Text) : Bool :=
  startsWith "interface " command || startsWith "router bgp " command

/-- The `end` of the configuration: what was entered is left by `exit`. -/
def LockedState.ended (st : LockedState) : LockedState :=
  { st with
    out := if st.nested then st.out ++ [("exit" : Text)] else st.out
    nested := false
    afterEnd := true
    endedConfig := true }

/-- A command of the configuration. -/
def LockedState.pushed (st : LockedState) (command : Text) : LockedState :=
  { st with
    nested := st.nested || entersSubcontext command
    out := st.out ++ [command] }

/-- A command behind the configuration. -/
def LockedState.pushedDo (st : LockedState) (command : Text) : LockedState :=
  { st with out := st.out ++ [("do " : Text) ++ command] }

/-- One turn of the loop, for a trimmed command. -/
def lockedStep (index : ℕ) (st : LockedState) (command : Text) : Except Text LockedState :=
  if command = ("configure terminal" : Text) ∧ index = 0 ∧ st.enteredConfig = false then
    .ok { st with enteredConfig := true }
  else if command = ("configure terminal" : Text) ∨
    command = ("configure terminal lock" : Text) then
    .error "prepared plan has a duplicate or misplaced configuration entry"
  else if command = ("exit" : Text) then
    .error "prepared plan may not carry raw `exit`; lock-safe context cleanup is derived"
  else if command = ("end" : Text) then
    if !st.enteredConfig || st.endedConfig then
      .error "prepared plan has a misplaced or duplicate `end`"
    else .ok st.ended
  else if st.afterEnd && startsWith "clear " command then
    .ok (st.pushedDo command)
  else if st.afterEnd then
    .error ("command " ++ debugText command ++
      (" cannot run after the config block while retaining the exclusive lock" : Text))
  else if entersSubcontext command && st.nested then
    .error "prepared plan enters a second configuration subcontext without leaving the first"
  else .ok (st.pushed command)

/-- The loop, from an index on. -/
def lockedLoop : ℕ → LockedState → List Text → Except Text LockedState
  | _, st, [] => .ok st
  | index, st, c :: commands =>
    match lockedStep index st (trim c) with
    | .error e => .error e
    | .ok st => lockedLoop (index + 1) st commands

/-- `locked_commands`. -/
def lockedCommands (commands : List Text) : Except Text (List Text) :=
  match lockedLoop 0 {} commands with
  | .error e => .error e
  | .ok st =>
    if !st.enteredConfig || !st.endedConfig || st.nested then
      .error "prepared plan must contain one complete `configure terminal` ... `end` envelope"
    else .ok st.out

/-- What `LockedDevices::execute` sends for a plan. -/
def lockedPlan (commands : List Text) : Except Text (List Text) := do
  checkAllowed commands
  let transformed ← lockedCommands commands
  checkAllowed transformed
  pure transformed

end Rerouter
