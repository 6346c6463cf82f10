import CommandGrammar.Matching.Inspect
import CommandGrammar.Text.Quoted

/-!
Dispatch: which handler a matched line calls, and with what. A wrapper calls the handler of the
command at the end of its chain, with the bindings of the line itself, which no handler can change.
-/

namespace CommandGrammar

namespace State

variable (s : State)

/-- The parameter is declared by the matched command. -/
def owns (parameter : Node) : Bool :=
  match s.command with
  | some command => command.parameters.contains parameter
  | none => false

/-- The bindings by name: those of the matched command's own parameters go over those of enclosing
commands. -/
def names : Namespace :=
  let enclosing := Bindings.byName (s.bindings.filter fun (n, _) => !s.owns n)
  let own := Bindings.byName (s.bindings.filter fun (n, _) => s.owns n)
  (Entries.setAll [] enclosing).setAll own

end State

/-- A call that a line makes. -/
structure Call where
  /-- The command whose handler is called. -/
  target : Node
  handler : Handler
  names : Namespace
deriving DecidableEq

/-- What the handler is given: the bindings by name, as values that cannot be changed. -/
def Call.given (call : Call) : Entries Value := call.names.frozen

/-- What executing a line comes to. -/
inductive Dispatch where
  /-- No command was matched. -/
  | idle
  /-- The command has no handler. -/
  | unhandled (target : Node)
  | call (call : Call)
deriving DecidableEq

namespace State

variable (s : State)

/-- What executing the line comes to, or why the matched wrapper stands for no command. -/
def dispatch : Except ChainError Dispatch :=
  match s.command with
  | none => .ok .idle
  | some command =>
    match s.root.follow command with
    | .error e => .error e
    | .ok target =>
      match target.handler with
      | none => .ok (.unhandled target)
      | some handler => .ok (.call ⟨target, handler, s.names⟩)

end State

namespace ChainError

/-- What is wrong, in words, when a line is executed. -/
def message : ChainError → String
  | dangling wrapper =>
    "unknown command path " ++ Text.quoted (String.intercalate " " (wrapper.path?.getD []))
  | cyclic through => "wrapper cycle through " ++ Text.quoted through.name

end ChainError

end CommandGrammar
