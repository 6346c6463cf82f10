import CommandGrammar.Literal.Error
import CommandGrammar.Text.Word

/-!
Tokens of an expression: words, numbers, texts in quotes and marks. Blanks, comments and the ends of
lines between brackets are passed over. The last token tells whether a bracket is still open, or
what is wrong with the characters after the tokens.
-/

namespace CommandGrammar.Literal

/-- What stands in quotes, as it is written, and how it is to be read. -/
structure Quotation where
  isBytes : Bool
  /-- Backslashes stand for themselves. -/
  isRaw : Bool
  /-- The text has places for expressions. -/
  isFormatted : Bool
  body : List Char
  /-- What is wrong with the places. -/
  fault : Option Error := none
deriving DecidableEq, Repr

/-- What a token is. -/
inductive Kind where
  | word (s : String)
  /-- A number; `length` counts the digits of an integer in decimal notation. -/
  | number (isImaginary : Bool) (length : Nat)
  | quotation (q : Quotation)
  | mark (s : String)
  | newline
  | indent
  | finish
  /-- The text ends before the bracket is closed. -/
  | unfinished (bracket : Char)
  /-- What follows is no token. -/
  | foreign (e : Error)
deriving DecidableEq, Repr

/-- A token, with the number of brackets that are open after it. -/
structure Token where
  kind : Kind
  depth : Nat
deriving DecidableEq, Repr

/-! ### Numbers -/

/-- The character of ASCII may belong to an identifier. -/
def isPlainNameChar (c : Char) : Bool := c.isAlphanum || c == '_'

/-- The character may belong to an identifier, or to something that is taken for one. -/
def isNameChar (c : Char) : Bool := isPlainNameChar c || 128 ≤ c.toNat

/-- Words that may follow a number without a blank. -/
def wordsAfterNumber : List (List Char) := ["and", "else", "for", "or", "not"].map String.toList

/-- Beginnings of words that may follow a number without a blank. -/
def beginningsAfterNumber : List (List Char) := ["if", "in", "is"].map String.toList

/-- Checks that a number ends before the characters. -/
def endNumber (kind : Notation) (cs : List Char) : Except Error (List Char) :=
  if wordsAfterNumber.contains (cs.takeWhile isNameChar) then .ok cs
  else if beginningsAfterNumber.contains (cs.take 2) then .ok cs
  else if cs.head?.any isPlainNameChar then .error (.number kind)
  else .ok cs

/-- What follows the digits of a number after its first one; single underscores may stand between
digits. -/
def afterDigits : List Char → Except Error (List Char)
  | [] => .ok []
  | [c] => if c == '_' then .error (.number .decimal) else .ok (if c.isDigit then [] else [c])
  | c :: d :: cs =>
    if c.isDigit then afterDigits (d :: cs)
    else if c != '_' then .ok (c :: d :: cs)
    else if d.isDigit then afterDigits cs
    else .error (.number .decimal)

/-- What follows the digits of a number in another notation; `isOpen` tells that a digit has to come
next. -/
def afterOtherDigits (kind : Notation) (isDigit : Char → Bool) (isOpen : Bool) :
    List Char → Except Error (List Char)
  | [] => if isOpen then .error (.number kind) else .ok []
  | c :: cs =>
    if isDigit c then afterOtherDigits kind isDigit false cs
    else if c.isDigit then .error (.digit c kind)
    else if isOpen then .error (.number kind)
    else if c == '_' then afterOtherDigits kind isDigit true cs
    else endNumber kind (c :: cs)

/-- What follows a number in another notation, after the letter that stands for it. -/
def afterOther (kind : Notation) (isDigit : Char → Bool) (cs : List Char) :
    Except Error (List Char) :=
  afterOtherDigits kind isDigit true (if cs.head? == some '_' then cs.drop 1 else cs)

/-- What follows the zeros that a number begins with. -/
def afterZeros : List Char → Except Error (List Char)
  | '0' :: cs => afterZeros cs
  | '_' :: '0' :: cs => afterZeros cs
  | '_' :: cs => if cs.head?.any Char.isDigit then .ok cs else .error (.number .decimal)
  | cs => .ok cs

/-- What follows the end of a number: the letter of an imaginary one, or nothing. -/
def afterSuffix : List Char → Except Error (List Char)
  | c :: cs =>
    if c == 'j' || c == 'J' then endNumber .imaginary cs else endNumber .decimal (c :: cs)
  | [] => .ok []

/-- What follows the exponent of a number, if it has one, and its end. -/
def afterExponent (cs : List Char) : Except Error (List Char) :=
  match cs with
  | e :: rest =>
    if e != 'e' && e != 'E' then afterSuffix cs
    else
      let isSigned := rest.head? == some '+' || rest.head? == some '-'
      let digits := if isSigned then rest.drop 1 else rest
      if digits.head?.any Char.isDigit then (afterDigits (digits.drop 1)).bind afterSuffix
      else if isSigned then .error (.number .decimal)
      else endNumber .decimal cs
  | [] => .ok []

/-- What follows a number from its fraction on, which begins after the point. -/
def afterFraction (cs : List Char) : Except Error (List Char) :=
  if cs.head?.any Char.isDigit then (afterDigits (cs.drop 1)).bind afterExponent
  else afterExponent cs

/-- What follows a number after its whole part. -/
def afterWhole : List Char → Except Error (List Char)
  | '.' :: cs => afterFraction cs
  | cs => afterExponent cs

/-- What follows a number that begins with zero, after that. -/
def afterZero (cs : List Char) : Except Error (List Char) :=
  match cs with
  | 'x' :: rest | 'X' :: rest =>
    afterOther .hexadecimal (fun c => c.isDigit || ('a' ≤ c.toLower && c.toLower ≤ 'f')) rest
  | 'o' :: rest | 'O' :: rest => afterOther .octal (fun c => '0' ≤ c && c ≤ '7') rest
  | 'b' :: rest | 'B' :: rest => afterOther .binary (fun c => c == '0' || c == '1') rest
  | cs => do
    let rest ← afterZeros cs
    if rest.head?.any Char.isDigit then
      let rest ← afterDigits (rest.drop 1)
      if rest.head?.any ['.', 'e', 'E', 'j', 'J'].contains then afterWhole rest
      else .error .leadingZero
    else afterWhole rest

/-- The number that the characters begin with, and what follows it. -/
def readNumber (cs : List Char) : Except Error (Kind × List Char) := do
  let rest ← match cs with
    | '.' :: cs => afterFraction cs
    | '0' :: cs => afterZero cs
    | cs => (afterDigits (cs.drop 1)).bind afterWhole
  let written := (cs.take (cs.length - rest.length)).filter (· != '_')
  let isImaginary := written.getLast?.any fun c => c == 'j' || c == 'J'
  return (.number isImaginary (if written.all Char.isDigit then written.length else 0), rest)

/-! ### Quotations -/

/-- The lines that end among the characters. -/
def newlines (cs : List Char) : Nat := cs.countP (· == '\n')

/-- The body of a text in quotes, after `done`, the characters before, given backwards, and what
follows the closing quotes. Errors are at the given line or later. -/
def readBody (quote : Char) (isLong : Bool) (line : Nat) (done : List Char) :
    List Char → Except Error (List Char × List Char)
  | [] => .error (.unterminated isLong (line + newlines done))
  | '\\' :: [] => .error (.unterminated isLong (line + newlines done))
  | '\\' :: c :: cs => readBody quote isLong line (c :: '\\' :: done) cs
  | c :: cs =>
    if c == quote && (!isLong || [quote, quote].isPrefixOf cs) then
      .ok (done.reverse, if isLong then cs.drop 2 else cs)
    else if c == '\n' && !isLong then .error (.unterminated isLong (line + newlines done))
    else readBody quote isLong line (c :: done) cs

/-- What the letters before the quotes say, if they may stand there. -/
def quotationOf? (letters : List Char) : Option (List Char → Quotation) :=
  let letters := letters.map Char.toLower
  let ordered := ["", "b", "r", "u", "f", "br", "rb", "fr", "rf"].map String.toList
  if ordered.contains letters then
    some (⟨letters.contains 'b', letters.contains 'r', letters.contains 'f', ·, none⟩)
  else none

/-- The quotation that begins with the quote after letters that say how it is read, and what follows
it. -/
def readQuotation (make : List Char → Quotation) (line : Nat) (quote : Char) (cs : List Char) :
    Except Error (Kind × List Char) := do
  let isLong := [quote, quote].isPrefixOf cs
  let (body, rest) ← readBody quote isLong line [] (if isLong then cs.drop 2 else cs)
  return (.quotation (make body), rest)

/-! ### Words and marks -/

/-- The first character that keeps the characters from being an identifier. -/
def firstForeign? : List Char → Option Char
  | [] => none
  | c :: cs =>
    if Text.startsIdentifier c then cs.find? fun c => !Text.continuesIdentifier c else some c

/-- The word or the quotation that the characters begin with, and what follows it. -/
def readWord (line : Nat) (cs : List Char) : Except Error (Kind × List Char) :=
  let letters := cs.takeWhile Char.isAlpha
  let after := cs.drop letters.length
  match after.head?.filter fun c => c == '"' || c == '\'', quotationOf? letters with
  | some quote, some make => readQuotation make line quote (after.drop 1)
  | _, _ =>
    let word := cs.takeWhile isNameChar
    match firstForeign? word with
    | some c => .error (.character c)
    | none => .ok (.word (String.ofList word), cs.drop word.length)

/-- The marks of several characters, the longest first. -/
def longMarks : List (List Char) :=
  ["**=", "//=", "<<=", ">>=", "...", "!=", "%=", "&=", "**", "*=", "+=", "-=", "->", "//", "/=",
    ":=", "<<", "<=", "<>", "==", ">=", ">>", "@=", "^=", "|="].map String.toList

/-- The mark that the characters begin with, and what follows it. -/
def readMark (cs : List Char) : Kind × List Char :=
  let mark := (longMarks.find? fun mark => mark.isPrefixOf cs).getD (cs.take 1)
  (.mark (String.ofList mark), cs.drop mark.length)

/-! ### Brackets -/

/-- An open bracket, and the line that it stands on. -/
structure OpenBracket where
  bracket : Char
  line : Nat
deriving DecidableEq, Repr

/-- How many brackets may be open at once. -/
def deepest : Nat := 200

/-- The open brackets after a bracket. -/
def bracketsAfter (line : Nat) (opened : List OpenBracket) (c : Char) :
    Except Error (List OpenBracket) :=
  match [('(', ')'), ('[', ']'), ('\x7b', '\x7d')].find? fun pair => pair.2 == c, opened with
  | none, opened =>
    if deepest ≤ opened.length then .error .tooDeep else .ok (⟨c, line⟩ :: opened)
  | some _, [] => .error (.unmatched c)
  | some (opening, _), last :: rest =>
    if last.bracket == opening then .ok rest
    else .error (.mismatched c last.bracket (if last.line = line then none else some last.line))

/-! ### Texts -/

/-- The characters are brackets. -/
def isBracket (c : Char) : Bool := ['(', ')', '[', ']', '\x7b', '\x7d'].contains c

/-- The character is passed over between tokens. -/
def isGap (c : Char) : Bool := c == ' ' || c == '\t' || c == '\x0c'

/-- The tokens where the text ends. -/
def lastTokens (opened : List OpenBracket) : List Token :=
  match opened.head? with
  | some last => [⟨.unfinished last.bracket, opened.length⟩]
  | none => [⟨.finish, 0⟩]

/-- The line has nothing but blanks or a comment up to its end. -/
def isEmptyLine (cs : List Char) : Bool :=
  match cs.dropWhile isGap with
  | [] => true
  | c :: _ => c == '#' || c == '\n'

/-- The token that the characters on the line begin with, and what follows it. -/
def readToken (line : Nat) : List Char → Except Error (Kind × List Char)
  | [] => .ok (.finish, [])
  | c :: cs =>
    if c.isDigit || (c == '.' && cs.head?.any Char.isDigit) then readNumber (c :: cs)
    else if c == '"' || c == '\'' then readQuotation (⟨false, false, false, ·, none⟩) line c cs
    else if isNameChar c then readWord line (c :: cs)
    else if c == '\\' then .error .continuation
    else if Text.isPrintable c then .ok (readMark (c :: cs))
    else .error (.character c)

/-- The tokens of characters on the line and after it, where brackets are open; `isFresh` tells that
there are none on the line before. `fuel` bounds the characters that are left. -/
def tokensFrom (fuel line : Nat) (opened : List OpenBracket) (isFresh : Bool) (cs : List Char) :
    List Token :=
  match fuel, cs with
  | 0, _ | _, [] => lastTokens opened
  | fuel + 1, c :: cs =>
    if isGap c then tokensFrom fuel line opened isFresh cs
    else if c == '#' then tokensFrom fuel line opened isFresh (cs.dropWhile (· != '\n'))
    else if c == '\n' then
      let ends := opened.isEmpty && !isFresh
      let indents := opened.isEmpty && cs.head?.any isGap && !isEmptyLine cs
      (if ends then [⟨.newline, 0⟩] else []) ++ (if indents then [⟨.indent, 0⟩] else []) ++
        tokensFrom fuel (line + 1) opened (isFresh || ends) cs
    else if c == '\\' && cs.head? == some '\n' then
      tokensFrom fuel (line + 1) opened isFresh (cs.drop 1)
    else if isBracket c then
      match bracketsAfter line opened c with
      | .error e => [⟨.foreign e, opened.length⟩]
      | .ok opened => ⟨.mark c.toString, opened.length⟩ :: tokensFrom fuel line opened false cs
    else
      match readToken line (c :: cs) with
      | .error e => [⟨.foreign e, opened.length⟩]
      | .ok (kind, rest) =>
        let read := (c :: cs).take ((c :: cs).length - rest.length)
        ⟨kind, opened.length⟩ :: tokensFrom fuel (line + newlines read) opened false rest

/-- A text with every end of a line written as a newline. -/
def newlinesOnly : List Char → List Char
  | '\r' :: '\n' :: cs => '\n' :: newlinesOnly cs
  | '\r' :: cs => '\n' :: newlinesOnly cs
  | c :: cs => c :: newlinesOnly cs
  | [] => []

/-- The tokens of a text. -/
def tokens (s : String) : List Token :=
  let cs := newlinesOnly s.toList
  if cs.contains '\x00' then [⟨.foreign .zeroCharacter, 0⟩]
  else tokensFrom (cs.length + 1) 1 [] true cs

end CommandGrammar.Literal
