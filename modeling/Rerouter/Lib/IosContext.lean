import Rerouter.Lib.Text

/-!
# Configuration contexts of IOS

What a command line of IOS does, as far as contexts go. A session is in exec mode, in global
configuration, or in a subcontext of it: an interface, a routing process, or an address family
of that process (`Rerouter.Ios.Context`). A command of a subcontext is carried out there; a
global one returns to global configuration, wherever it is typed, and is carried out there;
`exit` and `exit-address-family` go up one level, and `end` leaves the configuration.

A run of commands ends in a context, and what it carried out is its list of events
(`Rerouter.Ios.run`).
-/

namespace Rerouter

namespace Ios

open Text

/-- Where a session is. -/
inductive Context where
  | exec
  | global
  | interface (name : Text)
  | router (asn : Text)
  | addressFamily (asn : Text) (family : List Text)
deriving DecidableEq

/-- What a session carried out. -/
inductive Event where
  /-- A configuration command, in its context. -/
  | configured (context : Context) (command : List Text)
  /-- An exec command. -/
  | ran (command : List Text)
deriving DecidableEq

/-- Whether the session is in configuration mode. -/
def Context.inConfig : Context → Bool
  | exec => false
  | _ => true

/-- One level up. -/
def Context.up : Context → Context
  | exec => exec
  | global => exec
  | interface _ => global
  | router _ => global
  | addressFamily asn _ => router asn

/-- The levels below global configuration. -/
def Context.depth : Context → ℕ
  | exec | global => 0
  | interface _ | router _ => 1
  | addressFamily _ _ => 2

/-- What a command is. -/
inductive Kind where
  | configure
  /-- `end`. -/
  | leave
  /-- `exit` and `exit-address-family`. -/
  | up
  | exec
  /-- `do`, with the exec command behind it. -/
  | doExec (command : List Text)
  | interface (name : Text)
  | router (asn : Text)
  | addressFamily (family : List Text)
  /-- A command of a routing process. -/
  | routing
  /-- A command of an interface. -/
  | interfaceLine
  | global
deriving DecidableEq

/-- The words of a command, and what they make it. -/
def kind (command : List Text) : Kind :=
  match command with
  | [] => .exec
  | head :: tail =>
    if head = ("configure" : Text) then .configure
    else if head = ("end" : Text) then .leave
    else if head = ("exit" : Text) ∨ head = ("exit-address-family" : Text) then .up
    else if head = ("do" : Text) then .doExec tail
    else if head = ("show" : Text) ∨ head = ("clear" : Text) ∨ head = ("terminal" : Text) then .exec
    else if head = ("interface" : Text) then .interface (tail.headD [])
    else if head = ("router" : Text) then .router ((tail.drop 1).headD [])
    else if head = ("address-family" : Text) then .addressFamily tail
    else if head = ("neighbor" : Text) ∨ command.take 2 = (["no", "neighbor"] : List Text) then
      .routing
    else if head = ("shutdown" : Text) ∨ command = (["no", "shutdown"] : List Text) ∨
        command.take 2 = (["ip", "tcp"] : List Text) ∨
        command.take 3 = (["no", "ip", "tcp"] : List Text) then .interfaceLine
    else .global

/-- Where a command leaves the session. A command that its context does not know is rejected. -/
def after (context : Context) (command : List Text) : Context :=
  match kind command, context with
  | .configure, .exec => .global
  | .leave, _ => .exec
  | .up, context => context.up
  | .interface _, .exec | .router _, .exec | .global, .exec => .exec
  | .interface name, _ => .interface name
  | .router asn, _ => .router asn
  | .addressFamily family, .router asn => .addressFamily asn family
  | .global, _ => .global
  | _, context => context

/-- What a command carries out. -/
def events (context : Context) (command : List Text) : List Event :=
  match kind command, context with
  | .exec, .exec => [.ran command]
  | .doExec inner, context => if context.inConfig then [.ran inner] else []
  | .interface _, .exec | .router _, .exec | .global, .exec => []
  | .interface _, _ | .router _, _ | .global, _ => [.configured .global command]
  | .addressFamily _, .router asn => [.configured (.router asn) command]
  | .routing, .router asn => [.configured (.router asn) command]
  | .routing, .addressFamily asn family => [.configured (.addressFamily asn family) command]
  | .interfaceLine, .interface name => [.configured (.interface name) command]
  | .interfaceLine, .router asn => [.configured (.router asn) command]
  | _, _ => []

/-- Where a run ends. -/
def final (context : Context) (commands : List (List Text)) : Context :=
  commands.foldl after context

/-- What a run carries out. -/
def run (context : Context) : List (List Text) → List Event
  | [] => []
  | c :: commands => events context c ++ run (after context c) commands

/-- A run that is in configuration mode at every point. -/
def StaysInConfig (context : Context) : List (List Text) → Prop
  | [] => context.inConfig = true
  | c :: commands => context.inConfig = true ∧ StaysInConfig (after context c) commands

instance decidableStaysInConfig : (context : Context) → (commands : List (List Text)) →
    Decidable (StaysInConfig context commands)
  | context, [] => inferInstanceAs (Decidable (context.inConfig = true))
  | context, c :: commands =>
    have : Decidable (StaysInConfig (after context c) commands) :=
      decidableStaysInConfig (after context c) commands
    inferInstanceAs (Decidable (_ ∧ _))

/-- An event that is more than a look at the router. -/
def Event.changes : Event → Bool
  | configured _ _ => true
  | ran [] => false
  | ran (head :: _) => head ≠ ("show" : Text) && head ≠ ("terminal" : Text)

/-- A command that changes the router, from some context. -/
def Changes (command : List Text) : Prop :=
  ∃ context, ∃ e ∈ events context command, e.changes = true

variable {context : Context} {commands others : List (List Text)} {c : List Text}

@[simp] theorem final_nil : final context [] = context := rfl

@[simp] theorem final_cons : final context (c :: commands) = final (after context c) commands := rfl

theorem final_append : final context (commands ++ others) = final (final context commands) others :=
  List.foldl_append

theorem run_append :
    run context (commands ++ others) =
      run context commands ++ run (final context commands) others := by
  induction commands generalizing context with
  | nil => rfl
  | cons c commands ih => simp [run, ih]

theorem staysInConfig_append : StaysInConfig context (commands ++ others) ↔
    StaysInConfig context commands ∧ StaysInConfig (final context commands) others := by
  induction commands generalizing context with
  | nil =>
    cases others with
    | nil => simp [StaysInConfig]
    | cons c others => simp [StaysInConfig]
  | cons c commands ih => simp [StaysInConfig, ih, and_assoc]

/-- A run that stays in configuration mode ends there. -/
theorem StaysInConfig.final (h : StaysInConfig context commands) :
    (final context commands).inConfig = true := by
  induction commands generalizing context with
  | nil => exact h
  | cons c commands ih => exact ih h.2

/-! ### Exec commands -/

/-- Exec mode carries out every one of them. -/
theorem run_of_exec (h : ∀ c ∈ commands, kind c = .exec) :
    run .exec commands = commands.map .ran := by
  induction commands with
  | nil => rfl
  | cons c commands ih =>
    have hkind := h c (by simp)
    have hafter : after .exec c = .exec := by simp [after, hkind]
    have hevents : events .exec c = [.ran c] := by simp [events, hkind]
    rw [run, hafter, hevents, ih fun c hc => h c (List.mem_cons_of_mem _ hc)]
    rfl

theorem kind_do : kind (("do" : Text) :: c) = .doExec c := by
  simp [kind]

theorem after_do : after context (("do" : Text) :: c) = context := by
  unfold after
  rw [kind_do]

theorem events_do (hconfig : context.inConfig = true) :
    events context (("do" : Text) :: c) = [.ran c] := by
  unfold events
  rw [kind_do]
  cases context <;> first | rfl | cases hconfig

/-- And so does configuration mode, behind `do`. -/
theorem run_do (hconfig : context.inConfig = true) :
    run context (commands.map fun c => ("do" : Text) :: c) = commands.map .ran ∧
      final context (commands.map fun c => ("do" : Text) :: c) = context ∧
        StaysInConfig context (commands.map fun c => ("do" : Text) :: c) := by
  induction commands with
  | nil => exact ⟨rfl, rfl, hconfig⟩
  | cons c commands ih =>
    obtain ⟨hrun, hfinal, hstays⟩ := ih
    have hafter : after context (("do" : Text) :: c) = context := after_do
    have hevents : events context (("do" : Text) :: c) = [.ran c] := events_do hconfig
    refine ⟨?_, ?_, ?_⟩
    · rw [List.map_cons, run, hafter, hevents, hrun]
      rfl
    · rw [List.map_cons, final_cons, hafter, hfinal]
    · rw [List.map_cons]
      exact ⟨hconfig, by rw [hafter]; exact hstays⟩

end Ios

end Rerouter
