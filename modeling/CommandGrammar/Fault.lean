import CommandGrammar.Entries
import CommandGrammar.Value

/-!
Faults: what a user is told when a line or a grammar is at fault. A fault is an error or a warning of
some kind; it has a message, and options that say more about it and about how it is to be shown.
-/

namespace CommandGrammar

/-- What kind of fault it is. -/
inductive FaultKind where
  /-- An error of no particular kind. -/
  | error
  | noMatches
  | ambiguousMatch
  | missingRequired
  | tokenizing
  /-- A warning of no particular kind. -/
  | warning
  | ambiguousGrammar
deriving DecidableEq, Repr

namespace FaultKind

/-- The kinds. -/
def all : List FaultKind :=
  [error, noMatches, ambiguousMatch, missingRequired, tokenizing, warning, ambiguousGrammar]

/-- The kind's name, which is also the title of a fault without one. -/
def name : FaultKind → String
  | error => "CommandException"
  | noMatches => "NoMatchesError"
  | ambiguousMatch => "AmbiguousMatchError"
  | missingRequired => "MissingRequiredError"
  | tokenizing => "TokenizeError"
  | warning => "CommandWarning"
  | ambiguousGrammar => "AmbiguousGrammarWarning"

/-- The kind of that name. -/
def ofName? (s : String) : Option FaultKind := all.find? fun kind => kind.name == s

/-- The fault is a warning, not an error. -/
def isWarning : FaultKind → Bool
  | warning | ambiguousGrammar => true
  | error | noMatches | ambiguousMatch | missingRequired | tokenizing => false

/-- What stands over the candidates, for the kinds that list them. -/
def listing? : FaultKind → Option String
  | noMatches => some "possible options"
  | ambiguousMatch => some "can be interpreted as"
  | error | missingRequired | tokenizing | warning | ambiguousGrammar => none

end FaultKind

/-! ### Faults -/

/-- Options of a fault, by name. -/
abbrev Options := Entries Value

/-- A fault; one without a message says nothing. -/
structure Fault where
  kind : FaultKind
  message : Option String
  options : Options

namespace Fault

/-- The fault of the kind with a message given as a value, if that is a text or was not given. -/
def ofValue? (kind : FaultKind) (message : Value) (options : Options) : Option Fault :=
  match message with
  | .unset => some ⟨kind, none, options⟩
  | .text s => some ⟨kind, some s, options⟩
  | _ => none

variable (fault : Fault)

/-- The message, as a value. -/
def messageValue : Value := (fault.message.map Value.text).getD .unset

/-- The message, as running text. -/
def text : String := fault.messageValue.display

/-- The value of an option, null where it has none. -/
def option (name : String) : Value := fault.options.getD name .null

/-- The fault with further options, which go over its own. -/
def withOptions (options : Options) : Fault :=
  { fault with options := fault.options.setAll options }

/-- Why arguments other than options are refused when options are set anew. -/
def furtherArguments : String :=
  if fault.kind.isWarning then "positional arguments are not allowed"
  else "unused arguments are not allowed"

end Fault

/-! ### Details -/

/-- What a fault of some kind tells by itself. -/
inductive Detail where
  | token
  | candidates
  | missing
  | line
deriving DecidableEq, Repr

namespace Detail

/-- The detail's name, that of the option that holds it. -/
def name : Detail → String
  | token => "token"
  | candidates => "candidates"
  | missing => "missing"
  | line => "line"

/-- The detail is a tuple, empty if it is not given. -/
def isTuple : Detail → Bool
  | candidates | missing => true
  | token | line => false

end Detail

/-- What the faults of the kind tell. -/
def FaultKind.details : FaultKind → List Detail
  | noMatches | ambiguousMatch => [.token, .candidates]
  | missingRequired => [.missing]
  | tokenizing => [.line]
  | error | warning | ambiguousGrammar => []

/-- A detail of the fault; the type's name, where the option that holds it is of a type that cannot
be gone through. -/
def Fault.detail (fault : Fault) (detail : Detail) : Except String Value :=
  if detail.isTuple then
    let value := fault.options.getD detail.name (.tuple [])
    match value.elements? with
    | some items => .ok (.tuple items)
    | none => .error value.typeName
  else .ok (fault.option detail.name)

end CommandGrammar
