import CommandGrammar.Description
import CommandGrammar.Root
import CommandGrammar.Text.Case
import CommandGrammar.Text.Quoted

/-!
Inspection: the written form of grammars and of what is given to them, as logs and messages show it.
Texts are quoted, a tuple of one element keeps its comma, and an object shows its type's name with
its telling fields.
-/

namespace CommandGrammar.Inspect

/-! ### Pieces -/

/-- Parts with a comma and a space between them. -/
def commaSeparated (parts : List String) : String := String.intercalate ", " parts

/-- A tuple. -/
def tuple : List String → String
  | [part] => "(" ++ part ++ ",)"
  | parts => "(" ++ commaSeparated parts ++ ")"

/-- A list. -/
def list (parts : List String) : String := "[" ++ commaSeparated parts ++ "]"

/-- A dictionary. -/
def dictionary (entries : List (String × String)) : String :=
  "\x7b" ++ commaSeparated (entries.map fun (key, value) => key ++ ": " ++ value) ++ "\x7d"

/-- An object of the named type. -/
def object (typeName : String) (fields : List (String × String)) : String :=
  typeName ++ "(" ++ commaSeparated (fields.map fun (name, value) => name ++ "=" ++ value) ++ ")"

/-- A truth value. -/
def truth : Bool → String
  | true => "True"
  | false => "False"

/-- The absent value. -/
def absent : String := "None"

/-- The value that was not given. -/
def unset : String := "Unset"

/-- A tuple of texts. -/
def texts (parts : List String) : String := tuple (parts.map Text.quoted)

end CommandGrammar.Inspect

namespace CommandGrammar

/-! ### Nodes -/

namespace Node

/-- The name of the node's type. -/
def typeName (n : Node) : String :=
  match n.role with
  | .command _ => "command-node"
  | .wrapper _ => "wrapper-node"
  | .parameter traits =>
    match traits.kind with
    | some kind => kind.name ++ "-parameter-node"
    | none => "parameter-node"

/-- The telling fields of a node whose parameters are already written. -/
def inspectedFields (face : Face) (parameters : List String) : List (String × String) :=
  let name := ("name", Text.quoted face.name)
  let priority := ("priority", toString face.priority)
  let hidden := ("hidden", Inspect.truth face.isHidden)
  match face.role with
  | .command _ => [name, priority, hidden, ("parameters", Inspect.tuple parameters)]
  | .wrapper path => [name, priority, hidden, ("wrapped", Inspect.texts path)]
  | .parameter traits =>
    [name, ("aliases", Inspect.texts traits.aliases), priority, hidden,
      ("repeatable", Inspect.truth traits.repeatable),
      ("required", Inspect.truth traits.required)]

mutual
/-- The written form of a node. -/
def inspect : Node → String
  | .mk face parameters successors =>
    Inspect.object (typeName (.mk face parameters successors))
      (inspectedFields face (inspectAll parameters))
/-- The written forms of nodes. -/
def inspectAll : List Node → List String
  | [] => []
  | n :: ns => inspect n :: inspectAll ns
end

end Node

namespace Root

/-- The name of the root's type. -/
def typeName : String := "root-node"

/-- The written form of a root. -/
def inspect (root : Root) : String :=
  Inspect.object typeName [("successors", Inspect.tuple (Node.inspectAll root.successors))]

end Root

/-! ### Descriptions -/

namespace Parameter

/-- The name of the type of parameter descriptions. -/
def typeName : String := "parameter"

/-- The written form of a kind. -/
def inspectKind (kind : ParameterKind) : String :=
  "<ParameterKind." ++ Text.upper kind.name ++ ": " ++ Text.quoted kind.name ++ ">"

/-- The written form of a parameter's description. -/
def inspect (p : Parameter) : String :=
  Inspect.object typeName [
    ("name", Text.quoted p.name),
    ("kind", inspectKind p.kind),
    ("aliases", Inspect.texts p.aliases),
    ("descr", (p.help.map Text.quoted).getD Inspect.absent),
    ("required", Inspect.truth p.isRequired),
    ("repeatable", Inspect.truth p.isRepeatable),
    ("priority", (p.priority.map toString).getD Inspect.unset),
    ("hidden", Inspect.truth p.isHidden)]

end Parameter

namespace Command

/-- The name of the type of command descriptions. -/
def typeName : String := "command"

mutual
/-- The written form of a command's description. -/
def inspect : Command → String
  | .mk signature parameters commands =>
    Inspect.object typeName [
      ("name", Text.quoted signature.name),
      ("parameters", Inspect.tuple (parameters.map Parameter.inspect)),
      ("commands", Inspect.tuple (inspectAll commands)),
      ("wraps", (signature.wraps.map Inspect.texts).getD Inspect.absent),
      ("priority", toString signature.priority),
      ("hidden", Inspect.truth signature.isHidden)]
/-- The written forms of commands' descriptions. -/
def inspectAll : List Command → List String
  | [] => []
  | c :: cs => inspect c :: inspectAll cs
end

end Command

end CommandGrammar
