import CommandGrammar.Fault
import CommandGrammar.Line
import CommandGrammar.Matching.Verify
import CommandGrammar.Registry
import CommandGrammar.Text.English

/-!
What the faults of each stage say. Every message names the words at fault and where they stand, and
every hint says what to do next.
-/

namespace CommandGrammar

namespace Fault

/-- A tuple of texts. -/
def texts (words : List String) : Value := .tuple (words.map .text)

/-- A tuple of nodes. -/
def nodes (ns : List Node) : Value := .tuple (ns.map .node)

/-! ### Splitting -/

/-- A line whose quotes are not closed, or that ends in a backslash. -/
def ofUnfinished (line : String) (unfinished : Line.Unfinished) : Fault where
  kind := .tokenizing
  message := "cannot split input line: " ++ unfinished.message
  options := [
    ("title", .text "unterminated quote"),
    ("code", .code .unterminatedQuote),
    ("line", .text line),
    ("hint", .text "close the quote or escape it with a backslash")]

/-! ### Matching -/

/-- What to do about a word without a match. -/
def noMatchHint (candidates : List Node) (suggestions : List String) : String :=
  match suggestions, candidates with
  | best :: _, _ => "did you mean " ++ Text.quoted best ++ "?"
  | [], _ :: _ => "pick one of the possible options"
  | [], [] => "nothing else is accepted here, remove the extra input"

/-- A word that stands for nothing. -/
def ofNoMatch (word : String) (position : Nat) (candidates : List Node)
    (suggestions consumed : List String) : Fault where
  kind := .noMatches
  message :=
    "no match for " ++ Text.quoted word ++ " at " ++ Text.ordinal position ++ " position"
  options := [
    ("title", .text "no matches"),
    ("code", .code .noMatches),
    ("token", .text word),
    ("index", .integer position),
    ("candidates", nodes candidates),
    ("suggestions", texts suggestions),
    ("consumed", texts consumed),
    ("hint", .text (noMatchHint candidates suggestions))]

/-- A word that stands for several nodes. -/
def ofAmbiguous (word : String) (position : Nat) (candidates : List Node)
    (consumed : List String) : Fault where
  kind := .ambiguousMatch
  message :=
    "ambiguous input " ++ Text.quoted word ++ " at " ++ Text.ordinal position ++
      " position matches " ++ toString candidates.length ++ " options"
  options := [
    ("title", .text "ambiguous match"),
    ("code", .code .ambiguousMatch),
    ("token", .text word),
    ("index", .integer position),
    ("candidates", nodes candidates),
    ("consumed", texts consumed),
    ("hint", .text "type more of the word to tell them apart")]

/-- A parameter, called by the word, whose value is missing at the end of the line. -/
def ofMissingValue (word : String) (parameter : Node) (position : Nat)
    (consumed : List String) : Fault where
  kind := .noMatches
  message :=
    "missing value for " ++ Text.quoted parameter.name ++ " at " ++ Text.ordinal position ++
      " position"
  options := [
    ("title", .text "missing value"),
    ("code", .code .missingValue),
    ("token", .text ""),
    ("index", .integer position),
    ("candidates", nodes (if parameter.isHidden then [] else [parameter])),
    ("consumed", texts consumed),
    ("hint", .text ("add a value after " ++ Text.quoted word ++ " (for example: " ++
      parameter.name ++ " <value>)"))]

/-! ### Verification -/

/-- A command without parameters that it requires. -/
def ofMissingRequired (lack : MissingRequired) : Fault :=
  let label := if lack.names.length = 1 then "parameter" else Text.pluralize "parameter"
  { kind := .missingRequired
    message :=
      "missing required " ++ label ++ " " ++
        String.intercalate ", " (lack.names.map Text.quoted) ++ " for command " ++
        Text.quoted lack.command.name
    options := [
      ("title", .text ("missing required " ++ label)),
      ("code", .code .missingRequired),
      ("missing", texts lack.names),
      ("command", .node lack.command),
      ("hint", .text ("add " ++ String.intercalate " and " lack.names ++ " to the command line"))] }

/-! ### Grammars -/

/-- Siblings that share a literal. -/
def ofAmbiguity (ambiguity : Ambiguity) : Fault where
  kind := .ambiguousGrammar
  message :=
    "literal " ++ Text.quoted ambiguity.literal ++ " is shared by " ++
      toString ambiguity.siblings.length ++ " siblings at priority " ++
      toString ambiguity.priority
  options := [
    ("title", .text "ambiguous grammar"),
    ("code", .code .ambiguousGrammar),
    ("literal", .text ambiguity.literal),
    ("candidates", nodes ambiguity.siblings),
    ("hint", .text "give one of them a higher priority or rename it")]

end Fault

/-- The warnings about a grammar. -/
def Root.warnings (root : Root) : List Fault := root.ambiguities.map Fault.ofAmbiguity

namespace MatchError

/-- The fault of a line that does not match; a grammar that cannot be matched at all is no fault of
the line. -/
def fault? : MatchError → Option Fault
  | noMatch word position candidates suggestions consumed =>
    some (.ofNoMatch word position candidates suggestions consumed)
  | ambiguous word position candidates consumed =>
    some (.ofAmbiguous word position candidates consumed)
  | missingValue word parameter position consumed =>
    some (.ofMissingValue word parameter position consumed)
  | blocked => none

end MatchError

end CommandGrammar
