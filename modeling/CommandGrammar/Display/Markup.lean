import CommandGrammar.Display.Style
import CommandGrammar.Display.Styled
import CommandGrammar.Literal
import CommandGrammar.Text.Emoji
import CommandGrammar.Text.Word

/-!
Markup: texts with tags in brackets, which open and close styles. Tags are not shown; a backslash
before a tag shows it as it stands. A closing tag names the style that it closes, or closes the one
opened last.
-/

namespace CommandGrammar.Markup

/-! ### Tokens -/

/-- A part of a text: characters to be shown, or a tag, whose bracket opens at the position. -/
inductive Token where
  | plain (cs : List Char)
  | tag (position : Nat) (body : List Char)
deriving DecidableEq, Repr

/-- A tag may start with the character. -/
def startsTag (c : Char) : Bool :=
  ('a' ≤ c && c ≤ 'z') || c == '#' || c == '/' || c == '@'

/-- The tokens of a tag after characters, given backwards: two backslashes before the tag show one,
and an odd one shows the tag. -/
def tagTokens (position : Nat) (before body : List Char) : List Token :=
  let escapes := (before.takeWhile (· == '\\')).length
  [.plain (before.dropWhile (· == '\\')).reverse, .plain (List.replicate (escapes / 2) '\\'),
    if escapes % 2 = 0 then .tag position body else .plain ('[' :: (body ++ [']']))]

/-- The tokens of characters from a position on, after `before`, the characters since the last
tag, and `body`, those since an opening bracket, if there is one; both given backwards. -/
def tokensAfter (position : Nat) (before : List Char) :
    Option (List Char) → List Char → List Token
  | none, [] => [.plain before.reverse]
  | some body, [] => [.plain (body ++ '[' :: before).reverse]
  | none, c :: cs =>
    if c == '[' then tokensAfter (position + 1) before (some []) cs
    else tokensAfter (position + 1) (c :: before) none cs
  | some body, c :: cs =>
    if c == '[' then tokensAfter (position + 1) (body ++ '[' :: before) (some []) cs
    else if body.isEmpty && !startsTag c then tokensAfter (position + 1) (c :: '[' :: before) none cs
    else if c == ']' then
      tagTokens (position - body.length - 1) before body.reverse ++
        tokensAfter (position + 1) [] none cs
    else tokensAfter (position + 1) before (some (c :: body)) cs

/-- The tokens of a text. -/
def tokens (s : String) : List Token := tokensAfter 0 [] none s.toList

/-! ### Errors -/

/-- Why a markup cannot be shown. -/
inductive Error where
  /-- The closing tag closes a style that is not open. -/
  | unmatched (tag : String) (position : Nat)
  /-- The closing tag without a name finds no style open. -/
  | nothingOpen (position : Nat)
  /-- What a link passes to its action is no literal; `given` is all that stands in the tag. -/
  | link (text given : String) (problem : Literal.Problem)
  /-- A style holds an integer that cannot be read. -/
  | integer (e : Text.IntegerError)
deriving DecidableEq, Repr

namespace Error

/-- What is wrong, in words. -/
def message : Error → String
  | unmatched tag position =>
    "closing tag '" ++ tag ++ "' at position " ++ toString position ++ " doesn't match any open tag"
  | nothingOpen position =>
    "closing tag '[/]' at position " ++ toString position ++ " has nothing to close"
  | link text given (.form e) =>
    "error parsing " ++ Text.quoted text ++ " in " ++ Text.quoted given ++ "; " ++ e.message
  | link _ given (.value e) => "error parsing " ++ Text.quoted given ++ "; " ++ e.message
  | integer e => e.message

end Error

/-! ### Tags -/

/-- A tag that is open: where it was opened in what is shown, its name, and what stands after its
first "=", if it has one. -/
structure OpenTag where
  start : Nat
  name : String
  parameters : Option String
deriving DecidableEq, Repr

namespace OpenTag

/-- The tag links to an action and is no style. -/
def isLink (tag : OpenTag) : Bool := tag.name.toList.head? == some '@'

/-- The style that the tag says. -/
def style (tag : OpenTag) : String :=
  match tag.parameters with
  | some parameters => tag.name ++ " " ++ parameters
  | none => tag.name

/-- The text without an action's name before it: nothing where the text is only the name, and what is
passed to the action where the text ends with that, in parentheses. -/
def passed? (text : String) : Option String :=
  match text.toList.dropWhile fun c => Text.isWordChar c || c == '.' with
  | [] => none
  | cs =>
    if cs.head? == some '(' && cs.getLast? == some ')' && !cs.contains '\n' then some (String.ofList cs)
    else some text

/-- Checks what a link passes to its action. -/
def checkLink (tag : OpenTag) : Except Error Unit :=
  let given := tag.parameters.getD ""
  match passed? (Text.trim given) with
  | none => .ok ()
  | some text => (Literal.check text).mapError (.link text given)

end OpenTag

/-! ### Shown text -/

/-- Characters with the backslashes before brackets left out. -/
def unescape : List Char → List Char
  | [] => []
  | '\\' :: '[' :: cs => '[' :: unescape cs
  | c :: cs => c :: unescape cs

/-- What is shown for characters without tags. -/
def shownChars (cs : List Char) : List Char :=
  (Text.replaceEmojis (unescape cs)).filter fun c => !isControl c

/-- How far a markup has been read: what is shown, and the spans of closed tags and the tags that are
open, each the last one first. -/
structure Progress where
  text : String
  spans : List Span
  opened : List OpenTag
deriving DecidableEq, Repr

namespace Progress

/-- The span of a tag that ends here. -/
def spanOf (progress : Progress) (tag : OpenTag) : Span :=
  ⟨tag.start, progress.text.length, tag.style⟩

/-- The progress with an open tag closed; a link is no span. -/
def close (progress : Progress) (tag : OpenTag) : Except Error Progress := do
  let rest := { progress with opened := progress.opened.erase tag }
  if tag.isLink then
    tag.checkLink
    return rest
  else return { rest with spans := progress.spanOf tag :: progress.spans }

/-- The progress after a tag. -/
def tag (progress : Progress) (position : Nat) (body : List Char) : Except Error Progress :=
  match body.takeWhile (· != '=') with
  | '/' :: name =>
    let name := Text.trim (String.ofList name)
    if name.isEmpty then
      match progress.opened with
      | [] => .error (.nothingOpen position)
      | tag :: _ => progress.close tag
    else
      match Style.nameOf name with
      | .error e => .error (.integer e)
      | .ok style =>
        match progress.opened.find? fun tag => tag.name == style with
        | some tag => progress.close tag
        | none => .error (.unmatched (String.ofList ('[' :: (body ++ [']']))) position)
  | name =>
    match Style.nameOf (String.ofList name) with
    | .error e => .error (.integer e)
    | .ok style =>
      let parameters := (body.drop name.length).tail?.map String.ofList
      .ok { progress with opened := ⟨progress.text.length, style, parameters⟩ :: progress.opened }

/-- The progress after a token. -/
def advance (progress : Progress) : Token → Except Error Progress
  | .plain cs => .ok { progress with text := progress.text ++ String.ofList (shownChars cs) }
  | .tag position body => progress.tag position body

/-- What is shown where the markup ends, which ends the open tags too. Spans stand by where they
start; of those that start together, the one that ended last stands first. -/
def finish (progress : Progress) : Styled where
  text := progress.text
  style := ""
  spans := (progress.opened.reverse.map progress.spanOf ++ progress.spans).mergeSort
    fun a b => a.start ≤ b.start

end Progress

/-- What is shown for a markup. -/
def render (s : String) : Except Error Styled :=
  ((tokens s).foldlM Progress.advance ⟨"", [], []⟩).map Progress.finish

/-- What is shown for a markup, which stands for itself if it is at fault. -/
def shown (s : String) : Styled :=
  match render s with
  | .ok styled => styled
  | .error _ => ⟨s, "", []⟩

end CommandGrammar.Markup
