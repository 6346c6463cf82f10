import CommandGrammar.Text.Blank
import CommandGrammar.Text.Width

/-!
Where a line is broken to fit in columns: before a word that does not fit in what is left. A word
that fits on no line is broken itself, or stands on a line of its own.
-/

namespace CommandGrammar.Text

/-! ### Words -/

/-- The word that the characters begin with, with the blanks before and after it. -/
def wordWithBlanks (cs : List Char) : List Char :=
  let before := cs.takeWhile isBlank
  let word := (cs.drop before.length).takeWhile fun c => !isBlank c
  let after := (cs.drop (before.length + word.length)).takeWhile isBlank
  before ++ word ++ after

/-- The words of characters with the blanks around them, each with the place where it begins, of
which the first is given. Blanks alone are no word. `fuel` bounds the words. -/
def wordsFrom (fuel start : Nat) (cs : List Char) : List (Nat × List Char) :=
  match fuel with
  | 0 => []
  | fuel + 1 =>
    if cs.all isBlank then []
    else
      let word := wordWithBlanks cs
      (start, word) :: wordsFrom fuel (start + word.length) (cs.drop word.length)

/-- The words of characters with the blanks around them, and where they begin. -/
def placedWords (cs : List Char) : List (Nat × List Char) := wordsFrom cs.length 0 cs

/-- The columns of characters. -/
def columnsOf (cs : List Char) : Nat := widthAfter false none cs

/-- Characters without the blanks at their end. -/
def trimEnd (cs : List Char) : List Char := (cs.reverse.dropWhile isBlank).reverse

/-! ### Breaks -/

/-- The lengths of the parts into which clusters are broken, so that each but a single cluster fits in
the columns; `length` and `used` are those of the part that has begun. -/
def partLengths (columns length used : Nat) : List Cluster → List Nat
  | [] => [length]
  | cluster :: clusters =>
    let size := cluster.reversed.length
    if columns < used + cluster.columns then
      length :: partLengths columns size cluster.columns clusters
    else partLengths columns (length + size) (used + cluster.columns) clusters

/-- Where parts of the given lengths begin, of which the first begins at `start`. -/
def placesFrom (start : Nat) : List Nat → List Nat
  | [] => []
  | length :: lengths => start :: placesFrom (start + length) lengths

/-- Where lines of words are broken, when so many columns are used up before them; `folds` tells
whether a word that fits on no line is broken itself. No line is broken at its beginning. -/
def breaksFrom (columns : Nat) (folds : Bool) (used : Nat) : List (Nat × List Char) → List Nat
  | [] => []
  | (start, word) :: rest =>
    let size := columnsOf (trimEnd word)
    let here := if start = 0 then [] else [start]
    if used + size ≤ columns then breaksFrom columns folds (used + columnsOf word) rest
    else if columns < size && folds then
      let places := placesFrom start (partLengths columns 0 0 (clusters word))
      let last := word.drop (places.getLastD start - start)
      places.filter (· ≠ 0) ++ breaksFrom columns folds (columnsOf last) rest
    else if columns < size || (used ≠ 0 && start ≠ 0) then
      here ++ breaksFrom columns folds (columnsOf word) rest
    else breaksFrom columns folds used rest

/-- Where a line is broken to fit in the columns. -/
def breaks (columns : Nat) (folds : Bool) (line : String) : List Nat :=
  breaksFrom columns folds 0 (placedWords line.toList)

end CommandGrammar.Text
