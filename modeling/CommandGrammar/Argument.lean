import CommandGrammar.Text.Blank
import CommandGrammar.Value

/-!
What can be wrong with the arguments of a description or a node, in words, and the tests that the
makers of both share. A flaw is either of type, when an argument is no value of the kind expected,
or of content.
-/

namespace CommandGrammar

/-- The arguments that can be wrong on their own. -/
inductive Field where
  | name
  | descr
  | hidden
  | priority
  | kind
  | aliases
  | required
  | repeatable
  | parameters
  | commands
  | successors
  | handler
  | wraps
  | wrapped
deriving DecidableEq, Repr

namespace Field

/-- The argument's name. -/
def label : Field → String
  | name => "name"
  | descr => "descr"
  | hidden => "hidden"
  | priority => "priority"
  | kind => "kind"
  | aliases => "aliases"
  | required => "required"
  | repeatable => "repeatable"
  | parameters => "parameters"
  | commands => "commands"
  | successors => "successors"
  | handler => "handler"
  | wraps => "wraps"
  | wrapped => "wrapped"

end Field

/-- What an argument was expected to be. -/
inductive Expected where
  | text
  | truth
  | integer
  | texts
  | commandDescriptions
  | nodes
  | commandNodes
  | parameterNodes
  | callable
  | path
deriving DecidableEq, Repr

namespace Expected

/-- What was expected, in words. -/
def phrase : Expected → String
  | text => "a string"
  | truth => "a boolean"
  | integer => "an integer"
  | texts => "an iterable of strings"
  | commandDescriptions => "an iterable of command descriptions"
  | nodes => "an iterable of nodes"
  | commandNodes => "an iterable of command nodes"
  | parameterNodes => "an iterable of parameter nodes"
  | callable => "callable"
  | path => "a command path"

end Expected

/-- What is wrong with an argument. -/
inductive Flaw where
  /-- The argument is not what was expected. -/
  | notA (field : Field) (expected : Expected)
  | empty (field : Field)
  | blank (field : Field)
  | repeated (field : Field)
  | unknownKind
  /-- An alias is empty or has blanks. -/
  | badAlias
  /-- A positional parameter is described with aliases. -/
  | positionalAliases
  /-- A positional parameter node is made with aliases. -/
  | aliasesRefused
  /-- A command is described with something else than parameters. -/
  | notParameters
  | nameTaken (name : String)
  | wrapperHandler
  | wrapperCommands
  /-- The name is a value of a type that sets cannot hold. -/
  | unhashable (typeName : String)
deriving DecidableEq, Repr

/-- A flaw of an argument, with the name of the type whose maker found it. -/
structure ArgumentError where
  subject : String
  flaw : Flaw
deriving DecidableEq, Repr

namespace Flaw

/-- The argument is of the wrong type, whatever it holds. -/
def isOfType : Flaw → Bool
  | notA _ _ | notParameters | unhashable _ => true
  | empty _ | blank _ | repeated _ | unknownKind | badAlias | positionalAliases | aliasesRefused
  | nameTaken _ | wrapperHandler | wrapperCommands => false

/-- What is wrong, in words, about a maker's argument. -/
def message (subject : String) : Flaw → String
  | notA field expected => subject ++ " '" ++ field.label ++ "' must be " ++ expected.phrase
  | empty field => subject ++ " '" ++ field.label ++ "' cannot be empty"
  | blank field => subject ++ " '" ++ field.label ++ "' cannot contain whitespace"
  | repeated field => subject ++ " '" ++ field.label ++ "' cannot contain duplicates"
  | unknownKind => subject ++ " 'kind' must be one of 'flag', 'named', or 'simple'"
  | badAlias => subject ++ " 'aliases' must be non-empty strings without whitespace"
  | positionalAliases => subject ++ " simple parameters cannot have aliases"
  | aliasesRefused => subject ++ " cannot have aliases"
  | notParameters => subject ++ " parameters must be parameter descriptions"
  | nameTaken name => subject ++ " parameter name " ++ Text.quoted name ++ " is already in use"
  | wrapperHandler => subject ++ " wrapper cannot have a handler of its own"
  | wrapperCommands => subject ++ " wrapper cannot have sub-commands"
  | unhashable typeName => "unhashable type: '" ++ typeName ++ "'"

end Flaw

namespace ArgumentError

/-- What is wrong, in words. -/
def message (e : ArgumentError) : String := e.flaw.message e.subject

end ArgumentError

/-! ### Tests of single arguments -/

/-- The value of the expected shape, or the flaw of being another. -/
def expect {α : Type} (found : Option α) (field : Field) (expected : Expected) : Except Flaw α :=
  match found with
  | some a => .ok a
  | none => .error (.notA field expected)

/-- A word: a text that is not empty and has no blank. -/
def checkWord (field : Field) (s : String) : Except Flaw String :=
  if s.isEmpty then .error (.empty field)
  else if Text.hasBlank s then .error (.blank field)
  else .ok s

/-- A word given as a value. -/
def expectWord (field : Field) (value : Value) : Except Flaw String := do
  checkWord field (← expect value.text? field .text)

/-- The first name that repeats an earlier one. -/
def firstRepeated? (seen : List String) : List String → Option String
  | [] => none
  | name :: names =>
    if seen.contains name then some name else firstRepeated? (name :: seen) names

end CommandGrammar
