/-!
Splitting an input line into words. Space, tab, carriage return and line feed separate words; quotes
group characters, and a backslash takes the next character as it is. Between single quotes nothing
is special; between double quotes a backslash is dropped only before a double quote or a backslash.
An empty pair of quotes is a word.
-/

namespace CommandGrammar.Line

/-- The two kinds of quotes. -/
inductive Quote where
  | single
  | double
deriving DecidableEq, Repr

namespace Quote

/-- The character that opens and closes the quotes. -/
def mark : Quote → Char
  | single => '\''
  | double => '"'

end Quote

/-- The character separates words. -/
def isSeparator (c : Char) : Bool := c == ' ' || c == '\t' || c == '\r' || c == '\n'

/-- Where the scanner stands in a line; a word begun is kept with it. -/
inductive Mode where
  /-- No word has begun. -/
  | between
  /-- Inside a word, outside quotes. -/
  | word (begun : List Char)
  /-- Inside quotes. -/
  | quoted (quote : Quote) (begun : List Char)
  /-- After a backslash, outside quotes. -/
  | escaped (begun : List Char)
  /-- After a backslash between double quotes. -/
  | quotedEscaped (begun : List Char)
deriving DecidableEq, Repr

/-- What can be missing at the end of a line. -/
inductive Unfinished where
  | quotation
  | escapedCharacter
deriving DecidableEq, Repr

namespace Unfinished

/-- What is missing, in words. -/
def message : Unfinished → String
  | quotation => "no closing quotation"
  | escapedCharacter => "no escaped character"

end Unfinished

namespace Mode

/-- Reads a character that opens, continues or escapes within a word outside quotes. -/
def continueWord (begun : List Char) (c : Char) : Mode :=
  if c == '\\' then .escaped begun
  else if c == Quote.single.mark then .quoted .single begun
  else if c == Quote.double.mark then .quoted .double begun
  else .word (begun ++ [c])

/-- Reads one character: the word that it ends, if any, and where the scanner stands then. -/
def step : Mode → Char → Option (List Char) × Mode
  | .between, c => if isSeparator c then (none, .between) else (none, continueWord [] c)
  | .word begun, c =>
    if isSeparator c then (some begun, .between) else (none, continueWord begun c)
  | .quoted quote begun, c =>
    if c == quote.mark then (none, .word begun)
    else if c == '\\' && quote == .double then (none, .quotedEscaped begun)
    else (none, .quoted quote (begun ++ [c]))
  | .escaped begun, c => (none, .word (begun ++ [c]))
  | .quotedEscaped begun, c =>
    if c == '\\' || c == Quote.double.mark then (none, .quoted .double (begun ++ [c]))
    else (none, .quoted .double (begun ++ ['\\', c]))

/-- Ends the line: the word that was begun, if any. -/
def finish : Mode → Except Unfinished (List (List Char))
  | .between => .ok []
  | .word begun => .ok [begun]
  | .quoted _ _ => .error .quotation
  | .escaped _ => .error .escapedCharacter
  | .quotedEscaped _ => .error .escapedCharacter

/-- The words of the rest of a line. -/
def scan (mode : Mode) : List Char → Except Unfinished (List (List Char))
  | [] => mode.finish
  | c :: cs =>
    match mode.step c with
    | (none, next) => next.scan cs
    | (some ended, next) => (next.scan cs).map (ended :: ·)

end Mode

/-- The words of a line. -/
def split (line : String) : Except Unfinished (List String) :=
  (Mode.between.scan line.toList).map fun words => words.map String.ofList

end CommandGrammar.Line
