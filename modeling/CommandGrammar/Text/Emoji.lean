import CommandGrammar.Text.Blank
import CommandGrammar.Text.Case
import CommandGrammar.Text.EmojiTable

/-!
Pictographs by name. A name between two colons stands for its pictograph; what follows the last
hyphen of the name may ask that the pictograph is shown as a text or as a picture.
-/

namespace CommandGrammar.Text

/-- The character of a code point in hexadecimal. -/
def charOfHex (digits : String) : Char :=
  Char.ofNat (digits.foldl (fun n c =>
    16 * n + if c.isDigit then c.toNat - '0'.toNat else c.toNat - 'a'.toNat + 10) 0)

/-- The pictographs by name. -/
def emojis : List (String × List Char) :=
  (blankSeparated emojiNames).filterMap fun entry =>
    match entry.splitOn "=" with
    | [name, points] => some (name, (points.splitOn "+").map charOfHex)
    | _ => none

/-- The marks that ask how a pictograph is shown, by the words for them. -/
def emojiMarks : List (List Char × Char) :=
  [("-emoji".toList, Char.ofNat 0xfe0f), ("-text".toList, Char.ofNat 0xfe0e)]

/-- A name without the word for a mark at its end, and the mark. -/
def splitEmojiMark (name : List Char) : List Char × List Char :=
  match emojiMarks.find? fun (word, _) => word.isSuffixOf name with
  | some (word, mark) => (name.take (name.length - word.length), [mark])
  | none => (name, [])

/-- What stands between two colons: the pictograph of that name, or the same characters again. -/
def emojiFor (name : List Char) : List Char :=
  let (plain, mark) := splitEmojiMark name
  match emojis.lookup (lower (String.ofList plain)) with
  | some pictograph => pictograph ++ mark
  | none => ':' :: (name ++ [':'])

/-- Characters with the names among them replaced, after `name`, the characters since a colon, if
one stands before them, given backwards. -/
def emojisAfter : Option (List Char) → List Char → List Char
  | none, [] => []
  | some name, [] => ':' :: name.reverse
  | none, c :: cs => if c == ':' then emojisAfter (some []) cs else c :: emojisAfter none cs
  | some name, c :: cs =>
    if c == ':' then emojiFor name.reverse ++ emojisAfter none cs
    else if isBlank c then ':' :: (name.reverse ++ c :: emojisAfter none cs)
    else emojisAfter (some (c :: name)) cs

/-- Characters with the names of pictographs replaced. -/
def replaceEmojis (cs : List Char) : List Char := emojisAfter none cs

end CommandGrammar.Text
