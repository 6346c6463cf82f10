import CommandGrammar.Text.Blank
import CommandGrammar.Text.Case
import CommandGrammar.Text.Decimal

/-!
English in messages: the plural of the last word of a phrase, and the name of a position.
-/

namespace CommandGrammar.Text

/-! ### Plurals -/

/-- The words whose plural follows no rule. -/
def irregularPlurals : List (String × String) :=
  [("person", "people"), ("child", "children"), ("index", "indices"), ("alias", "aliases")]

/-- The word ends in one of the endings. -/
def endsIn (endings : List String) (word : List Char) : Bool :=
  endings.any fun ending => ending.toList.isSuffixOf word

/-- The plural of a word in lower case. -/
def pluralWord (word : List Char) : List Char :=
  match irregularPlurals.lookup (String.ofList word) with
  | some plural => plural.toList
  | none =>
    if endsIn ["s", "sh", "ch", "x", "z"] word then word ++ ['e', 's']
    else
      match word.reverse with
      | 'y' :: c :: rest =>
        if "aeiou".toList.contains c then word ++ ['s']
        else (c :: rest).reverse ++ ['i', 'e', 's']
      | _ => word ++ ['s']

/-- The plural of a word, in capitals when the word is, and capitalised when the word is. -/
def pluralCased (word : List Char) : List Char :=
  let plural := pluralWord (lowerAfter [] word)
  if isUpperText word then plural.flatMap upperChar
  else if isUpperText (word.take 1) then (plural.take 1).flatMap upperChar ++ plural.drop 1
  else plural

/-- The phrase with its last word in the plural; what stands around that word is kept. -/
def pluralize (phrase : String) : String :=
  let backwards := phrase.toList.reverse
  let trail := (backwards.takeWhile isBlank).reverse
  let body := backwards.dropWhile isBlank
  let word := (body.takeWhile fun c => !isBlank c).reverse
  let head := (body.dropWhile fun c => !isBlank c).reverse
  if word.isEmpty then phrase
  else String.ofList (head ++ pluralCased word ++ trail)

/-! ### Ordinals -/

/-- The names of the first ten positions. -/
def ordinalWords : List String :=
  ["first", "second", "third", "fourth", "fifth", "sixth", "seventh", "eighth", "ninth", "tenth"]

/-- The ending of a position written in digits. -/
def ordinalSuffix (n : Int) : String :=
  if 10 < Int.fmod n 100 && Int.fmod n 100 < 20 then "th"
  else
    match Int.fmod n 10 with
    | 1 => "st"
    | 2 => "nd"
    | 3 => "rd"
    | _ => "th"

/-- The name of a position whose digits are already written. -/
def ordinalAs (digits : String) (n : Int) : String :=
  match n with
  | .ofNat (k + 1) => (ordinalWords[k]?).getD (digits ++ ordinalSuffix n)
  | _ => digits ++ ordinalSuffix n

/-- The name of a position. -/
def ordinal (n : Int) : String := ordinalAs (toString n) n

/-- A number as it is written, beside the integer that it equals; one with a fraction equals none.
A number that is an integer itself is told from one that only equals one. -/
structure Numeral where
  written : String
  whole : Option Int
  isInteger : Bool
deriving DecidableEq, Repr

namespace Numeral

/-- The numeral of an integer. -/
def ofInt (n : Int) : Numeral := ⟨toString n, some n, true⟩

/-- The numeral of a floating point number. -/
def ofFloat (x : Float) : Numeral := ⟨decimal x, wholeOf? x, false⟩

end Numeral

/-- The names of positions asked for one after another, after those in `known`. Equal integers have
one name, that of the first of them, and so have equal numbers of other kinds. -/
def ordinalsKnowing (known : List ((Bool × Int) × String)) : List Numeral → List String
  | [] => []
  | ⟨written, none, _⟩ :: ns => (written ++ "th") :: ordinalsKnowing known ns
  | ⟨written, some n, isInteger⟩ :: ns =>
    match known.lookup (isInteger, n) with
    | some name => name :: ordinalsKnowing known ns
    | none =>
      let name := ordinalAs written n
      name :: ordinalsKnowing (((isInteger, n), name) :: known) ns

/-- The names of positions asked for one after another. -/
def ordinals (ns : List Numeral) : List String := ordinalsKnowing [] ns

end CommandGrammar.Text
