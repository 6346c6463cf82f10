import CommandGrammar.Text.Digits
import CommandGrammar.Text.Printable

/-!
What may be wrong with a text that should be a literal: its characters are no tokens, its tokens are
no expression, or the expression has no value.
-/

namespace CommandGrammar.Literal

/-- How the digits of a number are written. -/
inductive Notation where
  | decimal
  | hexadecimal
  | octal
  | binary
  | imaginary
deriving DecidableEq, Repr

/-- The name of the notation. -/
def Notation.name : Notation → String
  | decimal => "decimal"
  | hexadecimal => "hexadecimal"
  | octal => "octal"
  | binary => "binary"
  | imaginary => "imaginary"

/-- Why a code in a text stands for no character. -/
inductive CodeFlaw where
  /-- There are fewer digits than the code needs; it is given by its letter and their number. -/
  | truncated (letter : Char) (digits : Nat)
  /-- The code is higher than that of every character. -/
  | tooHigh
  | malformedName
  | unknownName
deriving DecidableEq, Repr

/-- What is wrong with the code, in words. -/
def CodeFlaw.message : CodeFlaw → String
  | truncated letter digits =>
    "truncated \\" ++ String.ofList (letter :: List.replicate digits 'X') ++ " escape"
  | tooHigh => "illegal Unicode character"
  | malformedName => "malformed \\N character escape"
  | unknownName => "unknown Unicode character name"

/-- What is wrong with a place for an expression in a text. -/
inductive PlaceError where
  /-- A brace closes no place. -/
  | loneBrace
  | notClosed
  | nested
  | conversion
  | backslash
  | comment
  | empty
  /-- There is nothing before the character. -/
  | nothingBefore (c : Char)
  | unterminated
  | unmatched (bracket : Char)
  | mismatched (closing opening : Char)
  | tooDeep
deriving DecidableEq, Repr

/-- What is wrong, in words. -/
def PlaceError.message : PlaceError → String
  | loneBrace => "f-string: single '\x7d' is not allowed"
  | notClosed => "f-string: expecting '\x7d'"
  | nested => "f-string: expressions nested too deeply"
  | conversion => "f-string: invalid conversion character: expected 's', 'r', or 'a'"
  | backslash => "f-string expression part cannot include a backslash"
  | comment => "f-string expression part cannot include '#'"
  | empty => "f-string: empty expression not allowed"
  | nothingBefore c => "f-string: expression required before '" ++ c.toString ++ "'"
  | unterminated => "f-string: unterminated string"
  | unmatched bracket => "f-string: unmatched '" ++ bracket.toString ++ "'"
  | mismatched closing opening =>
    "f-string: closing parenthesis '" ++ closing.toString ++
      "' does not match opening parenthesis '" ++ opening.toString ++ "'"
  | tooDeep => "f-string: too many nested parenthesis"

/-- Why a text is no literal. -/
inductive Error where
  /-- The text holds the character zero. -/
  | zeroCharacter
  /-- The bracket is not closed in the text. -/
  | neverClosed (bracket : Char)
  | unmatched (bracket : Char)
  /-- A bracket closes one of another kind, which was opened on another line if one is given. -/
  | mismatched (closing opening : Char) (line : Option Nat)
  | tooDeep
  /-- A text does not end; `isLong` tells that three quotes would end it. -/
  | unterminated (isLong : Bool) (line : Nat)
  | character (c : Char)
  | number (kind : Notation)
  | digit (d : Char) (kind : Notation)
  | leadingZero
  | tooLong (digits : Nat)
  /-- Something follows a backslash that should end its line. -/
  | continuation
  | indented
  /-- Bytes stand next to characters. -/
  | mixedTexts
  | wideByte
  | byteCode (position : Nat)
  | code (first last : Nat) (flaw : CodeFlaw)
  | place (e : PlaceError)
  /-- What stands in a place is no expression. -/
  | inPlace (e : Error)
  /-- The tokens are no expression. -/
  | notAnExpression
  | missingComma
  | missingElse
  | missingParentheses (name : String)
  | equalsAfterName
  | equalsAfter (form : String)
  | bindsForm (form : String)
  | assigned (word : String)
  | equalsInArgument
  | positionalAfterNamed
  | positionalAfterDictionary
  | starAfterDictionary
  | bareGenerator
  | bareTargets
  | starInParentheses
  | twoStarsInParentheses
  | bareStar
  | starInComprehension
  | twoStarsInComprehension
  | missingColon
  | missingValue
  | starAsValue
deriving DecidableEq, Repr

namespace Error

/-- The number of a character, as it is written after "U+". -/
def codePoint (c : Char) : String :=
  let digits := Nat.toDigits 16 c.toNat
  String.ofList ((List.replicate (4 - digits.length) '0' ++ digits).map Char.toUpper)

/-- The digits that a code needs are missing or too high: the positions in question. -/
def positions (first last : Nat) : String := toString first ++ "-" ++ toString last

/-- The characters are no tokens. -/
def isOfCharacters : Error → Bool
  | zeroCharacter | unmatched _ | mismatched .. | tooDeep | unterminated .. | character _ | number _
  | digit .. | leadingZero => true
  | _ => false

/-- What is wrong, in words. -/
def message : Error → String
  | zeroCharacter => "source code string cannot contain null bytes"
  | neverClosed bracket => "'" ++ bracket.toString ++ "' was never closed"
  | unmatched bracket => "unmatched '" ++ bracket.toString ++ "'"
  | mismatched closing opening line =>
    "closing parenthesis '" ++ closing.toString ++ "' does not match opening parenthesis '" ++
      opening.toString ++ "'" ++
      match line with
      | some line => " on line " ++ toString line
      | none => ""
  | tooDeep => "too many nested parentheses"
  | unterminated isLong line =>
    "unterminated " ++ (if isLong then "triple-quoted " else "") ++
      "string literal (detected at line " ++ toString line ++ ")"
  | character c =>
    if Text.isPrintable c then
      "invalid character '" ++ c.toString ++ "' (U+" ++ codePoint c ++ ")"
    else "invalid non-printable character U+" ++ codePoint c
  | number kind => "invalid " ++ kind.name ++ " literal"
  | digit d kind => "invalid digit '" ++ d.toString ++ "' in " ++ kind.name ++ " literal"
  | leadingZero =>
    "leading zeros in decimal integer literals are not permitted; " ++
      "use an 0o prefix for octal integers"
  | tooLong digits =>
    (Text.IntegerError.tooLong digits).message ++
      " - Consider hexadecimal for huge integer literals to avoid decimal conversion limits."
  | continuation => "unexpected character after line continuation character"
  | indented => "unexpected indent"
  | mixedTexts => "cannot mix bytes and nonbytes literals"
  | wideByte => "bytes can only contain ASCII literal characters"
  | byteCode position => "(value error) invalid \\x escape at position " ++ toString position
  | code first last flaw =>
    "(unicode error) 'unicodeescape' codec can't decode bytes in position " ++
      positions first last ++ ": " ++ flaw.message
  | place e => e.message
  | inPlace e => "f-string: " ++ e.message
  | notAnExpression => "invalid syntax"
  | missingComma => "invalid syntax. Perhaps you forgot a comma?"
  | missingElse => "expected 'else' after 'if' expression"
  | missingParentheses name =>
    "Missing parentheses in call to '" ++ name ++ "'. Did you mean " ++ name ++ "(...)?"
  | equalsAfterName => "invalid syntax. Maybe you meant '==' or ':=' instead of '='?"
  | equalsAfter form =>
    "cannot assign to " ++ form ++ " here. Maybe you meant '==' instead of '='?"
  | bindsForm form => "cannot use assignment expressions with " ++ form
  | assigned word => "cannot assign to " ++ word
  | equalsInArgument =>
    "expression cannot contain assignment, perhaps you meant \"==\"?"
  | positionalAfterNamed => "positional argument follows keyword argument"
  | positionalAfterDictionary => "positional argument follows keyword argument unpacking"
  | starAfterDictionary => "iterable argument unpacking follows keyword argument unpacking"
  | bareGenerator => "Generator expression must be parenthesized"
  | bareTargets => "did you forget parentheses around the comprehension target?"
  | starInParentheses => "cannot use starred expression here"
  | twoStarsInParentheses => "cannot use double starred expression here"
  | bareStar => "Invalid star expression"
  | starInComprehension => "iterable unpacking cannot be used in comprehension"
  | twoStarsInComprehension => "dict unpacking cannot be used in dict comprehension"
  | missingColon => "':' expected after dictionary key"
  | missingValue => "expression expected after dictionary key and ':'"
  | starAsValue => "cannot use a starred expression in a dictionary value"

end Error

/-- Why an expression has no value as a literal. -/
inductive ValueError where
  /-- The expression computes something, or names it. -/
  | computed
  /-- The expression takes over the entries of another dictionary. -/
  | spread
  /-- A set, or the keys of a dictionary, cannot have an element of the type. -/
  | unhashable (typeName : String)
deriving DecidableEq, Repr

/-- What is wrong, in words. -/
def ValueError.message : ValueError → String
  | computed => "malformed node or string on line 1"
  | spread => "malformed node or string: None"
  | unhashable typeName => "unhashable type: '" ++ typeName ++ "'"

end CommandGrammar.Literal
