import CommandGrammar.Text.CaseTable

/-!
Lower, upper and title case of texts. A character may become several; a lower case sigma takes its
final form at the end of a word; title case raises the first cased character of each run of cased
characters and lowers the others.
-/

namespace CommandGrammar.Text

/-! ### Characters -/

/-- The character has a lower, upper or title case. -/
def isCased (c : Char) : Bool :=
  if c.toNat < 0x80 then c.isAlpha else casedPoints.contains c

/-- The character is skipped in looking for a cased neighbour. -/
def isCaseIgnorable (c : Char) : Bool := caseIgnorablePoints.contains c

/-- The character is a title case letter. -/
def isTitle (c : Char) : Bool := titlePoints.contains c

/-- The character is an upper case letter. -/
def isUpper (c : Char) : Bool :=
  if c.toNat < 0x80 then c.isUpper
  else upperStrides.any fun (first, last, step) => (Stride.mk first last step).contains c

/-- The character is a lower case letter. -/
def isLower (c : Char) : Bool := isCased c && !isUpper c && !isTitle c

/-- What a character becomes under a list of single characters and shifted runs. -/
def recase (singles : CaseList) (runs : List CaseRun) (c : Char) : List Char :=
  match singles.lookup c.toNat with
  | some codes => codes.map Char.ofNat
  | none =>
    match runs.find? fun run => (Stride.mk run.first run.last run.step).contains c with
    | some run => [Char.ofNat ((c.toNat : Int) + run.shift).toNat]
    | none => [c]

/-- The lower case of a character on its own. -/
def lowerChar (c : Char) : List Char :=
  if c.toNat < 0x80 then [c.toLower] else recase lowerList lowerRuns c

/-- The upper case of a character. -/
def upperChar (c : Char) : List Char :=
  if c.toNat < 0x80 then [c.toUpper] else recase upperList upperRuns c

/-- The title case of a character. -/
def titleChar (c : Char) : List Char :=
  match titleList.lookup c.toNat with
  | some codes => codes.map Char.ofNat
  | none => upperChar c

/-! ### Texts -/

/-- The first character that is not skipped is cased. -/
def meetsCased (cs : List Char) : Bool :=
  match cs.dropWhile isCaseIgnorable with
  | [] => false
  | c :: _ => isCased c

/-- The lower case of a character between what stands before it, nearest first, and after it. -/
def lowerBetween (before : List Char) (c : Char) (after : List Char) : List Char :=
  if c == 'Σ' then
    if meetsCased before && !meetsCased after then ['ς'] else ['σ']
  else lowerChar c

/-- The lower case of the characters that follow `before`, which is given nearest first. -/
def lowerAfter (before : List Char) : List Char → List Char
  | [] => []
  | c :: cs => lowerBetween before c cs ++ lowerAfter (c :: before) cs

/-- The lower case of a text. -/
def lower (s : String) : String := String.ofList (lowerAfter [] s.toList)

/-- The upper case of a text. -/
def upper (s : String) : String := String.ofList (s.toList.flatMap upperChar)

/-- The title case of the characters that follow `before`, which is given nearest first. -/
def titleAfter (before : List Char) : List Char → List Char
  | [] => []
  | c :: cs =>
    let raised := match before with
      | [] => true
      | b :: _ => !isCased b
    (if raised then titleChar c else lowerBetween before c cs) ++ titleAfter (c :: before) cs

/-- The title case of a text. -/
def title (s : String) : String := String.ofList (titleAfter [] s.toList)

/-- Some character is in upper case, and none in lower or title case. -/
def isUpperText (cs : List Char) : Bool :=
  cs.any isUpper && cs.all fun c => !isLower c && !isTitle c

end CommandGrammar.Text
