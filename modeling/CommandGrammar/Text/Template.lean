import CommandGrammar.Text.Quoted

/-!
Templates: texts with places that values are put into. A place begins with a percent sign and ends with
a letter for how its value is written; between them may stand marks, a width, a precision and the size
of the value. A template that is filled with a single number is at fault unless it has one place for
it, and a place that asks for more is at fault itself.
-/

namespace CommandGrammar.Text

/-- Why a template cannot be filled with a number. -/
inductive TemplateError where
  /-- A place asks for a value by its name. -/
  | named
  /-- The template ends within a place. -/
  | incomplete
  | tooFewValues
  | unusedValue
  | widthTooBig
  | precisionTooBig
  /-- No place ends with the character, which stands at the position. -/
  | letter (c : Char) (position : Nat)
deriving DecidableEq, Repr

namespace TemplateError

/-- What is wrong, in words. -/
def message : TemplateError → String
  | named => "format requires a mapping"
  | incomplete => "incomplete format"
  | tooFewValues => "not enough arguments for format string"
  | unusedValue => "not all arguments converted during string formatting"
  | widthTooBig => "width too big"
  | precisionTooBig => "precision too big"
  | letter c position =>
    let shown := if 31 ≤ c.toNat && c.toNat ≤ 126 then c else '?'
    "unsupported format character '" ++ shown.toString ++ "' (0x" ++
      String.ofList (Nat.toDigits 16 c.toNat) ++ ") at index " ++ toString position

/-- The values are at fault, not how the places are written. -/
def isOfType : TemplateError → Bool
  | named | tooFewValues | unusedValue => true
  | incomplete | widthTooBig | precisionTooBig | letter .. => false

end TemplateError

namespace Template

/-- How much of a place was read. -/
inductive Place where
  /-- The place is over, or there was none yet. -/
  | over
  | start
  | marks
  | width (n : Nat)
  | afterWidth
  | point
  | precision (n : Nat)
  | afterPrecision
  | afterSize
deriving DecidableEq, Repr

/-- What is known while a template is read: the place, and whether the number is used already. -/
structure Reading where
  place : Place
  isUsed : Bool
deriving DecidableEq, Repr

/-- The marks of a place. -/
def marks : List Char := ['-', '+', ' ', '#', '0']

/-- The letters for sizes, which change nothing. -/
def sizes : List Char := ['h', 'l', 'L']

/-- The letters that end a place for a number. -/
def letters : List Char :=
  ['s', 'r', 'a', 'd', 'i', 'u', 'o', 'x', 'X', 'e', 'E', 'f', 'F', 'g', 'G', 'c']

/-- The widest place. -/
def widest : Nat := 0x7fffffffffffffff

/-- The highest precision. -/
def finest : Nat := 0x7fffffff

/-- The value of an ASCII digit. -/
def digit? (c : Char) : Option Nat := if c.isDigit then some (c.toNat - '0'.toNat) else none

variable (isUsed : Bool) (position : Nat) (c : Char)

/-- The number is used, to fill a place or for its width or precision. -/
def useFor (place : Place) : Except TemplateError Reading :=
  if isUsed then .error .tooFewValues else .ok ⟨place, true⟩

/-- Reads the end of a place. -/
def readLetter : Except TemplateError Reading :=
  match useFor isUsed .over with
  | .ok reading => if letters.contains c then .ok reading else .error (.letter c position)
  | .error e => .error e

/-- Reads the size of a place, or what follows. -/
def readSize : Except TemplateError Reading :=
  if sizes.contains c then .ok ⟨.afterSize, isUsed⟩ else readLetter isUsed position c

/-- Reads the point before a precision, or what follows. -/
def readPoint : Except TemplateError Reading :=
  if c == '.' then .ok ⟨.point, isUsed⟩ else readSize isUsed position c

/-- Reads a width, or what follows. -/
def readWidth : Except TemplateError Reading :=
  if c == '*' then useFor isUsed .afterWidth
  else
    match digit? c with
    | some d => .ok ⟨.width d, isUsed⟩
    | none => readPoint isUsed position c

/-- Reads a mark, or what follows. -/
def readMark : Except TemplateError Reading :=
  if marks.contains c then .ok ⟨.marks, isUsed⟩ else readWidth isUsed position c

/-- Reads a precision, or what follows. -/
def readPrecision : Except TemplateError Reading :=
  if c == '*' then useFor isUsed .afterPrecision
  else
    match digit? c with
    | some d => .ok ⟨.precision d, isUsed⟩
    | none => readSize isUsed position c

/-- Reads what follows a percent sign; a second one stands for itself. -/
def readStart : Except TemplateError Reading :=
  if c == '%' then .ok ⟨.over, isUsed⟩
  else if c == '(' then .error .named
  else readMark isUsed position c

/-- Reads a character at a position. -/
def read (place : Place) : Except TemplateError Reading :=
  match place with
  | .over => .ok ⟨if c == '%' then .start else .over, isUsed⟩
  | .start => readStart isUsed position c
  | .marks => readMark isUsed position c
  | .width n =>
    match digit? c with
    | some d =>
      if widest < 10 * n + d then .error .widthTooBig else .ok ⟨.width (10 * n + d), isUsed⟩
    | none => readPoint isUsed position c
  | .afterWidth => readPoint isUsed position c
  | .point => readPrecision isUsed position c
  | .precision n =>
    match digit? c with
    | some d =>
      if finest < 10 * n + d then .error .precisionTooBig
      else .ok ⟨.precision (10 * n + d), isUsed⟩
    | none => readSize isUsed position c
  | .afterPrecision => readSize isUsed position c
  | .afterSize => readLetter isUsed position c

/-- Checks what follows in a template, from a position on. -/
def checkFrom (position : Nat) (reading : Reading) : List Char → Except TemplateError Unit
  | [] =>
    if reading.place ≠ .over then .error .incomplete
    else if reading.isUsed then .ok ()
    else .error .unusedValue
  | c :: cs =>
    match read reading.isUsed position c reading.place with
    | .ok reading => checkFrom (position + 1) reading cs
    | .error e => .error e

/-- Checks that a template can be filled with a number. -/
def check (template : String) : Except TemplateError Unit :=
  checkFrom 0 ⟨.over, false⟩ template.toList

end Template

end CommandGrammar.Text
