import CommandGrammar.Description.Draft
import CommandGrammar.Grammar

/-!
Setting a grammar up, step by step, on one registry. A description is registered at once. A name asks
for a handler first: its decorator registers the command once it is called with one, which may be
later, more than once, or never. A step that fails takes nothing back that it did before.
-/

namespace CommandGrammar

/-! ### Arguments -/

/-- Why a registration is refused. -/
inductive RegistrationError where
  | argument (e : ArgumentError)
  /-- More arguments came with a finished description. -/
  | furtherArguments
  | notACommand
  /-- A handler came with the arguments of a command whose handler comes later. -/
  | handlerTwice
  /-- An option came by a name that no argument has. -/
  | unknownOption (name : String)
deriving DecidableEq

namespace RegistrationError

/-- What is wrong, in words. -/
def message : RegistrationError → String
  | argument e => e.message
  | furtherArguments => "command() takes no further arguments with a command description"
  | notACommand => "command() argument must be a command description or a name"
  | handlerTwice => "arbor.builder.Command() got multiple values for keyword argument 'handler'"
  | unknownOption name => "Command.__init__() got an unexpected keyword argument '" ++ name ++ "'"

end RegistrationError

namespace Command

/-- The arguments of a registration: a description or a name, and for a name what describes its
command. -/
structure Arguments where
  source : Value
  parameters : List Value := []
  options : Entries Value := []

/-- The options that describe a command. -/
def optionNames : List String := ["descr", "handler", "wraps", "commands", "priority", "hidden"]

end Command

namespace Command.Arguments

variable (arguments : Arguments)

/-- Nothing is given beside the source. -/
def isBare : Bool := arguments.parameters.isEmpty && arguments.options.isEmpty

/-- The draft of the description. -/
def draft : Draft := .ofArguments arguments.source arguments.parameters arguments.options

/-- The draft with the handler where one is given, which goes before the draft's own. -/
def draftWith (handler? : Option Value) : Draft :=
  { arguments.draft with handler := handler?.getD arguments.draft.handler }

/-- The first option that describes no command. -/
def unknownOption? : Option String :=
  (arguments.options.map Prod.fst).find? fun name => !optionNames.contains name

/-- The description of the arguments, with the handler beside them if one is given. -/
def describe (handler? : Option Value) : Except RegistrationError Command :=
  if handler?.isSome && arguments.draft.namesHandler then .error .handlerTwice
  else
    match arguments.unknownOption? with
    | some name => .error (.unknownOption name)
    | none => (Command.ofDraft (arguments.draftWith handler?)).mapError .argument

end Command.Arguments

/-! ### Steps -/

namespace Registry

/-- What registers a command once it is called with the handler; its arguments describe one without
it. -/
structure Decorator where
  arguments : Command.Arguments
  isAccepted : ∃ c, arguments.describe none = .ok c

/-- A step of setting a grammar up. -/
inductive Step where
  /-- Registers a description, or asks for the handler of a name. -/
  | command (arguments : Command.Arguments)
  /-- Calls a decorator with a handler. -/
  | decorate (decorator : Decorator) (handler : Value)
  /-- Finishes the grammar, its nodes numbered from the given number on. -/
  | finish (isStrict : Bool) (next : Nat)

/-- What a step gives back. -/
inductive Answer where
  | registered (command : Command)
  | decorator (decorator : Decorator)
  | handler (handler : Value)
  | finished (grammar : Grammar)

/-- Why a step fails. -/
inductive StepError where
  | registration (e : RegistrationError)
  | finish (e : FinishError)

/-- What is done on the registry, and may fail; a failure leaves the registry as it was then. -/
abbrev Action (α : Type) := ExceptT StepError (StateM Registry) α

/-- Registers a description, or makes the decorator of a name. -/
def commandAction (arguments : Command.Arguments) : Action Answer :=
  match arguments.source with
  | .command c => do
    if !arguments.isBare then throw (.registration .furtherArguments)
    modify fun registry => registry.register c
    return .registered c
  | .text _ =>
    match h : arguments.describe none with
    | .ok c => return .decorator ⟨arguments, c, h⟩
    | .error e => throw (.registration e)
  | _ => throw (.registration .notACommand)

/-- Registers the command of the decorator with the handler, and gives the handler back. -/
def decorateAction (decorator : Decorator) (handler : Value) : Action Answer := do
  let c ← MonadExcept.ofExcept
    ((decorator.arguments.describe (some handler)).mapError StepError.registration)
  modify fun registry => registry.register c
  return .handler handler

/-- Finishes the grammar of all that is registered by now. -/
def finishAction (isStrict : Bool) (next : Nat) : Action Answer := do
  let grammar ← MonadExcept.ofExcept (((← get).finish isStrict next).mapError StepError.finish)
  return .finished grammar

/-- What the step does. -/
def Step.action : Step → Action Answer
  | command arguments => commandAction arguments
  | decorate decorator handler => decorateAction decorator handler
  | finish isStrict next => finishAction isStrict next

/-- How the step ends, and the registry after it. -/
def perform (registry : Registry) (step : Step) : Except StepError Answer × Registry :=
  step.action.run.run registry

end Registry

end CommandGrammar
