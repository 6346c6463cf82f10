import CommandGrammar.Argument
import CommandGrammar.Entries

/-!
Drafts of descriptions: the arguments as a host gives them, of any type. A draft is checked field by
field in a fixed order, and the first flaw is the answer; a draft without a flaw is a description.
-/

namespace CommandGrammar

namespace Parameter

/-- The arguments of a parameter's description. -/
structure Draft where
  name : Value
  kind : Value := .text "simple"
  aliases : Value := .tuple []
  descr : Value := .unset
  required : Value := .truth false
  repeatable : Value := .truth false
  priority : Value := .unset
  hidden : Value := .truth false

/-- The draft with the name, and other arguments by their names. -/
def Draft.ofArguments (name : Value) (arguments : Entries Value) : Draft :=
  let draft : Draft := { name }
  { name
    kind := arguments.getD "kind" draft.kind
    aliases := arguments.getD "aliases" draft.aliases
    descr := arguments.getD "descr" draft.descr
    required := arguments.getD "required" draft.required
    repeatable := arguments.getD "repeatable" draft.repeatable
    priority := arguments.getD "priority" draft.priority
    hidden := arguments.getD "hidden" draft.hidden }

end Parameter

namespace Command

/-- The arguments of a command's description; each of the parameters may be any value. -/
structure Draft where
  name : Value
  parameters : List Value := []
  descr : Value := .unset
  handler : Value := .unset
  wraps : Value := .unset
  commands : Value := .tuple []
  priority : Value := .integer defaultPriority
  hidden : Value := .truth false
  /-- A handler is among the arguments, be it one that stands for none. -/
  namesHandler : Bool := false

/-- The draft with the name and the parameters, and other arguments by their names. -/
def Draft.ofArguments (name : Value) (parameters : List Value) (arguments : Entries Value) :
    Draft :=
  let draft : Draft := { name }
  { name, parameters
    descr := arguments.getD "descr" draft.descr
    handler := arguments.getD "handler" draft.handler
    wraps := arguments.getD "wraps" draft.wraps
    commands := arguments.getD "commands" draft.commands
    priority := arguments.getD "priority" draft.priority
    hidden := arguments.getD "hidden" draft.hidden
    namesHandler := (arguments.get? "handler").isSome }

end Command

namespace Description

/-! ### Fields that both kinds of description have -/

/-- Help text: none, or a text that is trimmed and then not empty. -/
def checkHelp : Value → Except Flaw (Option String)
  | .unset => .ok none
  | .text s => if (Text.trim s).isEmpty then .error (.empty .descr) else .ok (some (Text.trim s))
  | _ => .error (.notA .descr .text)

/-- A priority, if one is given. -/
def checkPriority : Value → Except Flaw (Option Int)
  | .unset => .ok none
  | .integer i => .ok (some i)
  | _ => .error (.notA .priority .integer)

/-- The fields shared by all descriptions. -/
structure Shared where
  name : String
  help : Option String
  isHidden : Bool
  priority : Option Int

/-- Checks name, help, visibility and priority, in this order. -/
def checkShared (name descr hidden priority : Value) : Except Flaw Shared := do
  let name ← expectWord .name name
  let help ← checkHelp descr
  let isHidden ← expect hidden.truth? .hidden .truth
  let priority ← checkPriority priority
  return { name, help, isHidden, priority }

/-! ### Parameters -/

/-- A kind given as a value. -/
def checkKind (value : Value) : Except Flaw ParameterKind :=
  match value.text?.bind ParameterKind.ofName? with
  | some kind => .ok kind
  | none => .error .unknownKind

/-- Aliases given as values, each a word unlike those in `seen` and those before it. -/
def checkAliases (seen : List String) : List Value → Except Flaw (List String)
  | [] => .ok []
  | .text word :: rest =>
    if word.isEmpty || Text.hasBlank word then .error .badAlias
    else if seen.contains word then .error (.repeated .aliases)
    else (checkAliases (word :: seen) rest).map (word :: ·)
  | _ :: _ => .error (.notA .aliases .texts)

/-- The description of a parameter, or its first flaw. -/
def checkParameter (draft : Parameter.Draft) : Except Flaw Parameter := do
  let shared ← checkShared draft.name draft.descr draft.hidden draft.priority
  let kind ← checkKind draft.kind
  let aliases ← checkAliases [shared.name] (← expect draft.aliases.collection? .aliases .texts)
  if !aliases.isEmpty && kind == .simple then throw .positionalAliases
  let isRequired ← expect draft.required.truth? .required .truth
  let isRepeatable ← expect draft.repeatable.truth? .repeatable .truth
  return {
    name := shared.name, kind, aliases, help := shared.help, isRequired, isRepeatable
    priority := shared.priority, isHidden := shared.isHidden }

/-! ### Commands -/

/-- Parameters given as values, with names unlike those in `seen` and each other's. -/
def checkParameters (seen : List String) : List Value → Except Flaw (List Parameter)
  | [] => .ok []
  | .parameter p :: rest =>
    if seen.contains p.name then .error (.nameTaken p.name)
    else (checkParameters (p.name :: seen) rest).map (p :: ·)
  | _ :: _ => .error .notParameters

/-- Sub-commands given as values. -/
def checkCommands : List Value → Except Flaw (List Command)
  | [] => .ok []
  | .command c :: rest => (checkCommands rest).map (c :: ·)
  | _ :: _ => .error (.notA .commands .commandDescriptions)

/-- A handler, if one is given. -/
def checkHandler : Value → Except Flaw (Option Handler)
  | .unset => .ok none
  | .callable c => .ok (some c.handler)
  | _ => .error (.notA .handler .callable)

/-- A command path given as a text, or as a list or tuple of texts. -/
def checkPath (value : Value) : Except Flaw (List String) :=
  match value with
  | .text s => .ok (Text.blankSeparated s)
  | value =>
    match value.sequence?.bind fun steps => steps.mapM Value.text? with
    | some steps => .ok steps
    | none => .error (.notA .wraps .path)

/-- The path of a wrapper, if one is given; a wrapper has neither handler nor sub-commands. -/
def checkWraps (value : Value) (handler : Option Handler) (commands : List Command) :
    Except Flaw (Option (List String)) :=
  match value with
  | .unset => .ok none
  | value => do
    let path ← checkPath value
    if path.isEmpty then throw (.empty .wraps)
    if handler.isSome then throw .wrapperHandler
    if !commands.isEmpty then throw .wrapperCommands
    return some path

/-- The description of a command, or its first flaw. -/
def checkCommand (draft : Command.Draft) : Except Flaw Command := do
  let shared ← checkShared draft.name draft.descr draft.hidden draft.priority
  let parameters ← checkParameters [] draft.parameters
  let commands ← checkCommands
    (← expect draft.commands.collection? .commands .commandDescriptions)
  let handler ← checkHandler draft.handler
  let wraps ← checkWraps draft.wraps handler commands
  return .mk {
    name := shared.name, help := shared.help, handler, wraps
    priority := shared.priority.getD defaultPriority, isHidden := shared.isHidden
  } parameters commands

end Description

/-- The description that the draft stands for, or its first flaw. -/
def Parameter.ofDraft (draft : Parameter.Draft) : Except ArgumentError Parameter :=
  (Description.checkParameter draft).mapError (ArgumentError.mk Parameter.typeName)

/-- The description that the draft stands for, or its first flaw. -/
def Command.ofDraft (draft : Command.Draft) : Except ArgumentError Command :=
  (Description.checkCommand draft).mapError (ArgumentError.mk Command.typeName)

end CommandGrammar
