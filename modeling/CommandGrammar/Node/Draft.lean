import CommandGrammar.Argument
import CommandGrammar.Entries

/-!
Drafts of nodes: nodes made by hand, from arguments of any type. As with descriptions the first flaw
is the answer, but the order of the tests and some of the rules are a node's own: help that is blank
counts as none, and the names of parameters are compared before anything else is looked at.
-/

namespace CommandGrammar

namespace Node

/-- The arguments that all nodes with a name have. -/
structure SymbolDraft where
  name : Value
  descr : Value := .null
  hidden : Value := .truth false
  priority : Value
  successors : Value

/-- The arguments of a command node. Without successors it is followed by its parameters. -/
structure CommandDraft extends SymbolDraft where
  priority := .integer defaultPriority
  successors := .unset
  handler : Value := .null
  parameters : Value := .tuple []

/-- The arguments of a wrapper node. -/
structure WrapperDraft extends SymbolDraft where
  priority := .integer defaultPriority
  successors := .unset
  wrapped : Value
  parameters : Value := .tuple []

/-- The arguments of a parameter node of the kind, or of no kind. -/
structure ParameterDraft extends SymbolDraft where
  priority := .unset
  successors := .tuple []
  kind : Option ParameterKind
  aliases : Value := .tuple []
  repeatable : Value := .truth false
  required : Value := .truth false

/-! ### Arguments by name -/

/-- The draft with arguments by their names. -/
def SymbolDraft.withArguments (draft : SymbolDraft) (arguments : Entries Value) : SymbolDraft where
  name := draft.name
  descr := arguments.getD "descr" draft.descr
  hidden := arguments.getD "hidden" draft.hidden
  priority := arguments.getD "priority" draft.priority
  successors := arguments.getD "successors" draft.successors

/-- The draft with the name, and other arguments by their names. -/
def CommandDraft.ofArguments (name : Value) (arguments : Entries Value) : CommandDraft :=
  let draft : CommandDraft := { name }
  { toSymbolDraft := draft.toSymbolDraft.withArguments arguments
    handler := arguments.getD "handler" draft.handler
    parameters := arguments.getD "parameters" draft.parameters }

/-- The draft with the name and the path, and other arguments by their names. -/
def WrapperDraft.ofArguments (name wrapped : Value) (arguments : Entries Value) : WrapperDraft :=
  let draft : WrapperDraft := { name, wrapped }
  { toSymbolDraft := draft.toSymbolDraft.withArguments arguments
    wrapped
    parameters := arguments.getD "parameters" draft.parameters }

/-- The draft of a parameter of the kind with the name, and other arguments by their names. -/
def ParameterDraft.ofArguments (kind : Option ParameterKind) (name : Value)
    (arguments : Entries Value) : ParameterDraft :=
  let draft : ParameterDraft := { name, kind }
  { toSymbolDraft := draft.toSymbolDraft.withArguments arguments
    kind
    aliases := arguments.getD "aliases" draft.aliases
    repeatable := arguments.getD "repeatable" draft.repeatable
    required := arguments.getD "required" draft.required }

/-! ### Fields -/

/-- Help text: a text is trimmed, and a blank one counts as none. -/
def checkHelp : Value → Except Flaw (Option String)
  | .null => .ok none
  | .text s => .ok (if (Text.trim s).isEmpty then none else some (Text.trim s))
  | _ => .error (.notA .descr .text)

/-- Nodes given as values. -/
def checkNodes (values : List Value) : Except Flaw (List Node) :=
  expect (values.mapM Value.node?) .successors .nodes

/-- Successors given as a value. -/
def checkSuccessors (value : Value) : Except Flaw (List Node) := do
  checkNodes (← expect value.collection? .successors .nodes)

/-- Parameters given as values, with names unlike those in `seen` and each other's. -/
def checkParameters (seen : List String) : List Value → Except Flaw (List Node)
  | [] => .ok []
  | .node n :: rest =>
    if n.isCommand then .error (.notA .parameters .parameterNodes)
    else if seen.contains n.name then .error (.nameTaken n.name)
    else (checkParameters (n.name :: seen) rest).map (n :: ·)
  | _ :: _ => .error (.notA .parameters .parameterNodes)

/-- A handler, or none. -/
def checkHandler : Value → Except Flaw (Option Handler)
  | .null => .ok none
  | .callable c => .ok (some c.handler)
  | _ => .error (.notA .handler .callable)

/-- The node of the role over the draft, its successors being given as a value. -/
def checkSymbol (number : Nat) (role : Role) (parameters : List Node) (draft : SymbolDraft) :
    Except Flaw Node := do
  let name ← expectWord .name draft.name
  let help ← checkHelp draft.descr
  let isHidden ← expect draft.hidden.truth? .hidden .truth
  let priority ← expect draft.priority.integer? .priority .integer
  let successors ← checkSuccessors draft.successors
  return .mk { number, name, help, isHidden, priority, role } parameters successors

/-! ### Commands -/

/-- The parameters of a command, given as a value. -/
def checkDeclared (value : Value) : Except Flaw (List Node) := do
  checkParameters [] (← expect value.collection? .parameters .parameterNodes)

/-- The draft with the successors that a command has by default, its parameters. -/
def SymbolDraft.followedBy (draft : SymbolDraft) (parameters : List Node) : SymbolDraft :=
  { draft with successors := draft.successors.orDefault (.tuple (parameters.map .node)) }

/-- The command node with the number, or its first flaw. -/
def checkCommand (number : Nat) (draft : CommandDraft) : Except Flaw Node := do
  let parameters ← checkDeclared draft.parameters
  let handler ← checkHandler draft.handler
  checkSymbol number (.command handler) parameters (draft.toSymbolDraft.followedBy parameters)

/-- The words of a wrapper's path. -/
def checkSteps (steps : List Value) : Except Flaw (List String) :=
  if steps.isEmpty then .error (.empty .wrapped) else steps.mapM (expectWord .wrapped)

/-- The path of a wrapper: the words of a text, or a list or tuple of words. -/
def checkWrapped (value : Value) : Except Flaw (List String) :=
  match value with
  | .text s => checkSteps ((Text.blankSeparated s).map .text)
  | value =>
    match value.sequence? with
    | some steps => checkSteps steps
    | none => .error (.notA .wrapped .path)

/-- The wrapper node with the number, or its first flaw. -/
def checkWrapper (number : Nat) (draft : WrapperDraft) : Except Flaw Node := do
  let path ← checkWrapped draft.wrapped
  let parameters ← checkDeclared draft.parameters
  checkSymbol number (.wrapper path) parameters (draft.toSymbolDraft.followedBy parameters)

/-! ### Parameters -/

/-- The name is none of the aliases, and no alias stands twice. -/
def areDistinct (name : Value) (aliases : List String) : Bool :=
  (firstRepeated? [] aliases).isNone &&
    match name with
    | .text s => !aliases.contains s
    | _ => true

/-- Aliases given as a value, unlike the name and each other. -/
def checkAliases (name value : Value) : Except Flaw (List String) := do
  let aliases ← (← expect value.collection? .aliases .texts).mapM (expectWord .aliases)
  if let some typeName := name.unhashable? then throw (.unhashable typeName)
  if !areDistinct name aliases then throw (.repeated .aliases)
  return aliases

/-- The parameter node with the number, or its first flaw. -/
def checkParameter (number : Nat) (draft : ParameterDraft) : Except Flaw Node := do
  if draft.kind == some .simple && draft.aliases.isTruthy then throw .aliasesRefused
  let aliases ← checkAliases draft.name draft.aliases
  let repeatable ← expect draft.repeatable.truth? .repeatable .truth
  let required ← expect draft.required.truth? .required .truth
  checkSymbol number (.parameter { kind := draft.kind, aliases, repeatable, required }) []
    { draft.toSymbolDraft with
      priority := draft.priority.orDefault (.integer (priorityOfKind draft.kind)) }

/-! ### Makers -/

/-- The command node with the number, or what is wrong with its draft. -/
def ofCommandDraft (number : Nat) (draft : CommandDraft) : Except ArgumentError Node :=
  (checkCommand number draft).mapError (ArgumentError.mk "command-node")

/-- The wrapper node with the number, or what is wrong with its draft. -/
def ofWrapperDraft (number : Nat) (draft : WrapperDraft) : Except ArgumentError Node :=
  (checkWrapper number draft).mapError (ArgumentError.mk "wrapper-node")

/-- The name of the type of parameter nodes of the kind. -/
def parameterTypeName : Option ParameterKind → String
  | some kind => kind.name ++ "-parameter-node"
  | none => "parameter-node"

/-- The parameter node with the number, or what is wrong with its draft. -/
def ofParameterDraft (number : Nat) (draft : ParameterDraft) : Except ArgumentError Node :=
  (checkParameter number draft).mapError (ArgumentError.mk (parameterTypeName draft.kind))

end Node

namespace Root

/-- The root over successors given as a value, or the first flaw. -/
def checkRoot (value : Value) : Except Flaw Root := do
  expect (Root.ofNodes? (← Node.checkSuccessors value)) .successors .commandNodes

/-- The root over successors given as a value, or what is wrong with it. -/
def ofValue (value : Value) : Except ArgumentError Root :=
  (checkRoot value).mapError (ArgumentError.mk Root.typeName)

end Root

end CommandGrammar
