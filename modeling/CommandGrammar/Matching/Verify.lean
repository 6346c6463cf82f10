import CommandGrammar.Matching.State

/-!
Verification: every required parameter that the matched command declares has to be bound, also one
that matching never reached.
-/

namespace CommandGrammar

/-- The required parameters, by name, that a command lacks. -/
structure MissingRequired where
  command : Node
  names : List String
deriving DecidableEq

namespace State

variable (s : State)

/-- The required parameters of the command that are not bound, in declaration order. -/
def lacking (command : Node) : List Node :=
  command.parameters.filter fun p => p.isRequired && !s.bindings.binds p

/-- Checks that the matched command lacks no required parameter. -/
def verify : Except MissingRequired Unit :=
  match s.command with
  | none => .ok ()
  | some command =>
    if (s.lacking command).isEmpty then .ok ()
    else .error ⟨command, (s.lacking command).map Node.name⟩

end State

end CommandGrammar
