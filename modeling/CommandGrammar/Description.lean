import CommandGrammar.Node

/-!
Descriptions of commands and their parameters, from which the nodes of a grammar are built. A
description may be used in several places; nodes are built anew for each.
-/

namespace CommandGrammar

/-- The description of a parameter. A missing priority is that of the parameter's kind. -/
structure Parameter where
  name : String
  kind : ParameterKind
  aliases : List String
  help : Option String
  isRequired : Bool
  isRepeatable : Bool
  priority : Option Int
  isHidden : Bool
deriving DecidableEq, Repr

/-- A command's description but for its parameters and sub-commands. -/
structure Signature where
  name : String
  help : Option String
  handler : Option Handler
  wraps : Option (List String)
  priority : Int
  isHidden : Bool
deriving DecidableEq, Repr

/-- The description of a command, with its parameters and sub-commands in order. -/
inductive Command where
  | mk (signature : Signature) (parameters : List Parameter) (commands : List Command)
deriving Repr

namespace Command

/-- The description but for its parameters and sub-commands. -/
def signature : Command → Signature
  | .mk signature _ _ => signature

/-- The parameters, in matching precedence. -/
def parameters : Command → List Parameter
  | .mk _ parameters _ => parameters

/-- The sub-commands, in order. -/
def commands : Command → List Command
  | .mk _ _ commands => commands

end Command

/-! ### Priorities -/

/-- The priority of commands and flags: they win over parameters that take values. -/
def defaultPriority : Int := 0

/-- The priority of parameters that take values. -/
def parameterPriority : Int := -10

/-- The priority of a parameter that gives none. -/
def priorityOfKind : Option ParameterKind → Int
  | some .flag => defaultPriority
  | some .named | some .simple | none => parameterPriority

namespace ParameterKind

/-- The kinds, in order. -/
def all : List ParameterKind := [flag, named, simple]

/-- The kind's name. -/
def name : ParameterKind → String
  | flag => "flag"
  | named => "named"
  | simple => "simple"

/-- The kind of that name. -/
def ofName? (s : String) : Option ParameterKind := all.find? fun kind => kind.name == s

end ParameterKind

end CommandGrammar
