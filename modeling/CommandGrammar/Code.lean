/-!
Codes of faults: stable numbers, grouped by the stage that finds the fault.
-/

namespace CommandGrammar

/-- What a fault is about: matching, verification, tokenizing, or the grammar itself. -/
inductive Code where
  | noMatches
  | ambiguousMatch
  | missingValue
  | missingRequired
  | unterminatedQuote
  | ambiguousGrammar
deriving DecidableEq, Repr

namespace Code

/-- The codes, in the order of their numbers. -/
def all : List Code :=
  [noMatches, ambiguousMatch, missingValue, missingRequired, unterminatedQuote, ambiguousGrammar]

/-- The code's number. -/
def number : Code → Nat
  | noMatches => 21101
  | ambiguousMatch => 21102
  | missingValue => 21103
  | missingRequired => 21201
  | unterminatedQuote => 21301
  | ambiguousGrammar => 22101

/-- The code's name. -/
def name : Code → String
  | noMatches => "NO_MATCHES"
  | ambiguousMatch => "AMBIGUOUS_MATCH"
  | missingValue => "MISSING_VALUE"
  | missingRequired => "MISSING_REQUIRED"
  | unterminatedQuote => "UNTERMINATED_QUOTE"
  | ambiguousGrammar => "AMBIGUOUS_GRAMMAR"

/-- The code of that name. -/
def ofName? (s : String) : Option Code := all.find? fun code => code.name == s

end Code

end CommandGrammar
