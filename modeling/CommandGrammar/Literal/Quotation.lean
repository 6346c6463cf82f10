import CommandGrammar.Literal.Token

/-!
What stands in quotes: codes after backslashes, and places for expressions between braces. A place
ends with its expression, or has a letter for a conversion after it, or a format, which may have
places itself.
-/

namespace CommandGrammar.Literal

/-! ### Codes -/

/-- The character is a digit of a code. -/
def isHexDigit (c : Char) : Bool := c.isDigit || ('a' ≤ c.toLower && c.toLower ≤ 'f')

/-- The number that digits of a code write. -/
def hexValue (digits : List Char) : Nat :=
  digits.foldl (fun n c =>
    16 * n + if c.isDigit then c.toNat - '0'.toNat else c.toLower.toNat - 'a'.toNat + 10) 0

/-- How many digits a code has, by its letter. -/
def codeDigits (c : Char) : Nat :=
  if c == 'x' then 2 else if c == 'u' then 4 else if c == 'U' then 8 else 0

/-- The places that a character takes where codes are counted: others than those of ASCII are codes
themselves. -/
def places (c : Char) : Nat := if c.toNat < 128 then 1 else 10

/-- Characters may have the name: it has two letters, digits, blanks or hyphens, or more of them. -/
def mayBeName (name : List Char) : Bool :=
  2 ≤ name.length && name.all fun c => c.isAlphanum || c == ' ' || c == '-'

/-- Checks the name of a character that follows a backslash at the position and its letter. -/
def checkName (position : Nat) : List Char → Except Error Unit
  | '\x7b' :: cs =>
    let name := cs.takeWhile (· != '\x7d')
    let last := name.foldl (fun n c => n + places c) (position + 2)
    if name.isEmpty || name.length = cs.length then .error (.code position last .malformedName)
    else if mayBeName name then .ok ()
    else .error (.code position (last + 1) .unknownName)
  | _ => .error (.code position (position + 1) .malformedName)

/-- Checks the codes that follow backslashes in characters, of which the first stands at the
position. -/
def checkCodes (position : Nat) : List Char → Except Error Unit
  | [] => .ok ()
  | ['\\'] => .ok ()
  | '\\' :: c :: cs => do
    let digits := (cs.take (codeDigits c)).takeWhile isHexDigit
    if digits.length < codeDigits c then
      throw (.code position (position + 1 + digits.length) (.truncated c (codeDigits c)))
    if 0x10ffff < hexValue digits then throw (.code position (position + 9) .tooHigh)
    if c == 'N' then checkName position cs
    checkCodes (position + if c.toNat < 128 then 2 else 16) cs
  | c :: cs => checkCodes (position + places c) cs

/-- Checks the codes that follow backslashes in bytes, of which the first stands at the position. -/
def checkByteCodes (position : Nat) : List Char → Except Error Unit
  | [] => .ok ()
  | '\\' :: 'x' :: cs =>
    if ((cs.take 2).takeWhile isHexDigit).length < 2 then .error (.byteCode position)
    else checkByteCodes (position + 2) cs
  | '\\' :: _ :: cs => checkByteCodes (position + 2) cs
  | _ :: cs => checkByteCodes (position + 1) cs

/-! ### Texts between places -/

/-- What was read last in a text between places. -/
inductive Last where
  | plain
  | backslash
  /-- A backslash and the letter for a name. -/
  | letter
  /-- A part of a name in braces. -/
  | name
deriving DecidableEq, Repr

/-- The character is a brace. -/
def isBrace (c : Char) : Bool := c == '\x7b' || c == '\x7d'

/-- The characters up to a place or the end, after `done`, those before, given backwards, and what
follows them. Of a doubled brace the first one is taken and the second one passed over; the last
value tells that the characters end so. In a format no brace is doubled, and a closing one ends it. -/
def readPlain (isRaw isFormat : Bool) (last : Last) (done : List Char) :
    List Char → Except Error (List Char × List Char × Bool)
  | [] => .ok (done.reverse, [], false)
  | c :: cs =>
    let next := fun last => readPlain isRaw isFormat last (c :: done) cs
    match last with
    | .name => next (if c == '\x7d' then .plain else .name)
    | .letter => next (if c == '\x7b' then .name else .plain)
    | last =>
      if isBrace c then
        if isFormat then .ok (done.reverse, c :: cs, false)
        else if cs.head? == some c then .ok ((c :: done).reverse, cs.drop 1, true)
        else if c == '\x7d' then .error (.place .loneBrace)
        else .ok (done.reverse, c :: cs, false)
      else if last == .backslash then next (if c == 'N' then .letter else .plain)
      else next (if c == '\\' && !isRaw then .backslash else .plain)

/-! ### Places -/

/-- How many brackets may be open in an expression at once. -/
def deepestInPlace : Nat := 200

/-- The open brackets of an expression after a bracket that closes the last of them. -/
def closeInPlace (closing : Char) : List Char → Except Error (List Char)
  | [] => .error (.place (.unmatched closing))
  | opening :: rest =>
    if [('(', ')'), ('[', ']'), ('\x7b', '\x7d')].contains (opening, closing) then .ok rest
    else .error (.place (.mismatched closing opening))

/-- The quotes that are open in an expression: which ones, and whether there are three of them. -/
abbrev OpenQuote := Option (Char × Bool)

/-- The expression that the characters begin with, after `done`, those before, given backwards, and
what follows it. `passed` counts characters that are taken as they are. -/
def readExpression (quote : OpenQuote) (opened : List Char) (passed : Nat) (done : List Char) :
    List Char → Except Error (List Char × List Char)
  | [] =>
    match quote, opened with
    | some _, _ => .error (.place .unterminated)
    | none, bracket :: _ => .error (.place (.unmatched bracket))
    | none, [] => .ok (done.reverse, [])
  | c :: cs =>
    let next := fun quote opened passed => readExpression quote opened passed (c :: done) cs
    match passed with
    | passed + 1 => next quote opened passed
    | 0 =>
      if c == '\\' then .error (.place .backslash)
      else
        match quote with
        | some (q, isLong) =>
          if c != q then next quote opened 0
          else if !isLong then next none opened 0
          else if [q, q].isPrefixOf cs then next none opened 2
          else next quote opened 0
        | none =>
          if c == '\'' || c == '"' then
            if [c, c].isPrefixOf cs then next (some (c, true)) opened 2
            else next (some (c, false)) opened 0
          else if ['(', '[', '\x7b'].contains c then
            if deepestInPlace ≤ opened.length then .error (.place .tooDeep)
            else next none (c :: opened) 0
          else if c == '#' then .error (.place .comment)
          else if opened.isEmpty && ['!', '=', '<', '>'].contains c && cs.head? == some '=' then
            next none opened 1
          else if opened.isEmpty && ['!', ':', '=', '\x7d'].contains c then
            .ok (done.reverse, c :: cs)
          else if isBracket c then
            match closeInPlace c opened with
            | .ok opened => next none opened 0
            | .error e => .error e
          else next none opened 0

/-- The character is a blank of an expression. -/
def isBlankInPlace (c : Char) : Bool := isGap c || c == '\n'

/-- The character is a blank of ASCII. -/
def isPlainBlank (c : Char) : Bool := isBlankInPlace c || c == '\x0b' || c == '\r'

/-- Checks the expression of a place, which is followed by the character. -/
def checkExpression (check : String → Except Error Unit) (expression : List Char) (next : Char) :
    Except Error Unit :=
  if expression.all isBlankInPlace then
    .error (.place (if next == '\x7d' then .empty else .nothingBefore next))
  else
    match check ("(" ++ String.ofList expression ++ ")") with
    | .ok _ => .ok ()
    | .error e => .error (if e.isOfCharacters then e else .inPlace e)

/-- What follows the conversion of a place, if it has one. -/
def afterConversion : List Char → Except Error (List Char)
  | '!' :: c :: cs => if ['s', 'r', 'a'].contains c then .ok cs else .error (.place .conversion)
  | '!' :: [] => .error (.place .notClosed)
  | cs => .ok cs

/-- What follows the format of a place, if it has one, which is read by the function. -/
def afterFormat (format : List Char → Except Error (List Char)) :
    List Char → Except Error (List Char)
  | ':' :: [] => .error (.place .notClosed)
  | ':' :: cs => format cs
  | cs => .ok cs

/-- What follows a place of the level after its opening brace. Expressions are checked, and formats
are read, by the functions. -/
def afterPlace (check : String → Except Error Unit) (format : List Char → Except Error (List Char))
    (level : Nat) (cs : List Char) : Except Error (List Char) := do
  if 2 ≤ level then throw (.place .nested)
  let (expression, rest) ← readExpression none [] 0 [] cs
  let some next := rest.head? | throw (.place .notClosed)
  checkExpression check expression next
  let rest := if next == '=' then (rest.drop 1).dropWhile isPlainBlank else rest
  let rest ← afterFormat format (← afterConversion rest)
  unless rest.head? == some '\x7d' do throw (.place .notClosed)
  return rest.drop 1

/-- What follows a text with places: nothing, or the brace that ends it where it is a format. `fuel`
bounds its characters. -/
def afterPlaces (check : String → Except Error Unit) (isRaw : Bool) :
    Nat → Nat → List Char → Except Error (List Char)
  | 0, _, _ => .error (.place .notClosed)
  | fuel + 1, level, cs => do
    let (plain, rest, isDoubled) ← readPlain isRaw (0 < level) .plain [] cs
    unless isRaw do checkCodes 0 plain
    match isDoubled, rest with
    | true, rest => afterPlaces check isRaw fuel level rest
    | false, '\x7b' :: rest =>
      let rest ← afterPlace check (afterPlaces check isRaw fuel (level + 1)) level rest
      afterPlaces check isRaw fuel level rest
    | false, rest => if level = 0 || !rest.isEmpty then .ok rest else .error (.place .notClosed)

/-! ### Quotations -/

namespace Quotation

/-- Checks a quotation by itself; expressions are checked by the function. -/
def check (checkExpression : String → Except Error Unit) (q : Quotation) : Except Error Unit :=
  if q.isBytes then
    if q.body.any fun c => 128 ≤ c.toNat then .error .wideByte
    else if q.isRaw then .ok ()
    else checkByteCodes 0 q.body
  else if q.isFormatted then
    match afterPlaces checkExpression q.isRaw (q.body.length + 1) 0 q.body with
    | .ok _ => .ok ()
    | .error e => .error e
  else if q.isRaw then .ok ()
  else checkCodes 0 q.body

end Quotation

/-- The token with its quotation checked, if it is one; expressions are checked by the function. -/
def Token.checked (checkExpression : String → Except Error Unit) (token : Token) : Token :=
  match token.kind with
  | .quotation q =>
    match q.check checkExpression with
    | .ok _ => token
    | .error e => { token with kind := .quotation { q with fault := some e } }
  | _ => token

end CommandGrammar.Literal
