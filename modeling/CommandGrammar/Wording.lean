import CommandGrammar.Failure
import CommandGrammar.Text.Template

/-!
Wording asked for by a host: plurals of phrases and names of positions, where the phrase or the
position is given as a value. Answers are kept by what was asked for, so a value that cannot be a key
is refused before anything else.
-/

namespace CommandGrammar

/-- The plural of a phrase given as a value. -/
def pluralizeValue (phrase : Value) : Except Misuse String :=
  match phrase.text?, phrase.unhashable? with
  | some s, _ => .ok (Text.pluralize s)
  | none, some typeName => .error (.unhashable typeName)
  | none, none => .error .notAPhrase

/-! ### Positions -/

/-- Why a value is no position. -/
inductive PositionError where
  | unhashable (typeName : String)
  /-- The value has no remainder. -/
  | noRemainder (typeName : String)
  /-- The value is a text, whose remainder is the text with the divisor filled in; that fails. -/
  | template (e : Text.TemplateError)
  /-- The value is a text with the divisor filled in, which is no number. -/
  | filled
deriving DecidableEq, Repr

namespace PositionError

/-- Why the value is no position, in words. -/
def message : PositionError → String
  | unhashable typeName => "unhashable type: '" ++ typeName ++ "'"
  | noRemainder typeName => "unsupported operand type(s) for %: '" ++ typeName ++ "' and 'int'"
  | template e => e.message
  | filled => "'<' not supported between instances of 'int' and 'str'"

/-- The value is of a type that it cannot be. -/
def isOfType : PositionError → Bool
  | template e => e.isOfType
  | unhashable _ | noRemainder _ | filled => true

end PositionError

namespace Value

/-- The numeral that a value is; truth values equal one and zero, and are written as words. -/
def numeral : Value → Except PositionError Text.Numeral
  | truth b => .ok ⟨Inspect.truth b, some (if b then 1 else 0), false⟩
  | integer i => .ok (.ofInt i)
  | float x => .ok (.ofFloat x)
  | text s =>
    match Text.Template.check s with
    | .ok _ => .error .filled
    | .error e => .error (.template e)
  | value =>
    match value.unhashable? with
    | some typeName => .error (.unhashable typeName)
    | none => .error (.noRemainder value.typeName)

end Value

/-- The names of the positions among values, asked for one after another. -/
def ordinalsOf (values : List Value) : Except PositionError (List String) :=
  (values.mapM Value.numeral).map Text.ordinals

end CommandGrammar
