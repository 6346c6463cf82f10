/-!
Blank characters, and texts cut at them: trimming both ends, and the maximal runs of other characters.
-/

namespace CommandGrammar.Text

/-- The character is white space: the ASCII blanks and separators, and Unicode's spaces. -/
def isBlank (c : Char) : Bool :=
  let code := c.toNat
  (0x09 ≤ code && code ≤ 0x0d) || (0x1c ≤ code && code ≤ 0x20) || code == 0x85 || code == 0xa0 ||
    code == 0x1680 || (0x2000 ≤ code && code ≤ 0x200a) || code == 0x2028 || code == 0x2029 ||
    code == 0x202f || code == 0x205f || code == 0x3000

/-- Some character of the text is blank. -/
def hasBlank (s : String) : Bool := s.toList.any isBlank

/-- The text without the blanks at its ends. -/
def trim (s : String) : String :=
  String.ofList (((s.toList.dropWhile isBlank).reverse.dropWhile isBlank).reverse)

/-- The runs of characters that are not blank, after `run`, the one begun, which is given backwards. -/
def runsAfter (run : List Char) : List Char → List (List Char)
  | [] => if run.isEmpty then [] else [run.reverse]
  | c :: cs =>
    if isBlank c then
      if run.isEmpty then runsAfter [] cs else run.reverse :: runsAfter [] cs
    else runsAfter (c :: run) cs

/-- The maximal runs of characters that are not blank, in order. -/
def blankSeparated (s : String) : List String := (runsAfter [] s.toList).map String.ofList

end CommandGrammar.Text
