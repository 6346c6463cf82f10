import CommandGrammar.Display.Styled
import CommandGrammar.Text.Wrap

/-!
Lines of a styled text: it is cut at newlines, its tabs are filled, and lines that do not fit in the
columns are broken. Spans keep what they cover of the lines.
-/

namespace CommandGrammar

/-- What becomes of a word that is longer than a line: it goes on below, or its end is left out. -/
inductive Overflow where
  | fold
  | ellipsis
deriving DecidableEq, Repr

namespace Span

/-- What the span covers between two positions, counted from the first of them, if it covers
something. -/
def between? (span : Span) (start stop : Nat) : Option Span :=
  let first := max span.start start
  let last := min span.stop stop
  if first < last then some { span with start := first - start, stop := last - start } else none

/-- The span in a text that is cut off at a position, if it begins before that. -/
def before? (span : Span) (position : Nat) : Option Span :=
  if span.start < position then some { span with stop := min span.stop position } else none

/-- The span, so much further on. -/
def shift (span : Span) (count : Nat) : Span :=
  { span with start := span.start + count, stop := span.stop + count }

end Span

namespace Styled

variable (text : Styled)

/-! ### Parts -/

/-- The part between two positions. -/
def between (start stop : Nat) : Styled where
  text := String.ofList ((text.text.toList.drop start).take (stop - start))
  style := text.style
  spans := text.spans.filterMap fun span => span.between? start stop

/-- The parts between positions that follow each other, the first of them given, up to the end. -/
def partsFrom (start : Nat) : List Nat → List Styled
  | [] => [text.between start text.text.length]
  | stop :: stops => text.between start stop :: partsFrom stop stops

/-- The text cut at positions; where it is not cut, spans that cover nothing stay too. -/
def cut (positions : List Nat) : List Styled :=
  if positions.isEmpty then [text] else text.partsFrom 0 positions

/-- Where the lines of characters begin and end, from a position on, where the first line begins. -/
def lineEnds (start position : Nat) : List Char → List (Nat × Nat)
  | [] => [(start, position)]
  | c :: cs =>
    if c == '\n' then (start, position) :: lineEnds (position + 1) (position + 1) cs
    else lineEnds start (position + 1) cs

/-- The lines of the text. -/
def splitLines : List Styled :=
  match lineEnds 0 0 text.text.toList with
  | [_] => [text]
  | ends => ends.map fun (start, stop) => text.between start stop

/-! ### Tabs -/

/-- A text with blanks after it, which the spans at its end cover too. -/
def extend (columns : Nat) : Styled where
  text := text.text ++ Text.blanks columns
  style := text.style
  spans := text.spans.map fun span =>
    if text.text.length ≤ span.stop then { span with stop := span.stop + columns } else span

/-- The text with other characters in the place of its own, and perhaps more of them. -/
def refill (filled : String) : Styled :=
  { text.extend (filled.length - text.text.length) with text := filled }

/-- Texts one after another, in the style of the first one. -/
def joined (style : String) : List Styled → Styled
  | [] => ⟨"", style, []⟩
  | text :: rest =>
    let later := joined style rest
    ⟨text.text ++ later.text, style,
      text.spans ++ later.spans.map fun span => span.shift text.text.length⟩

/-- A line without tabs. -/
def expandTabs : Styled :=
  match Text.tabParts text.text with
  | [_] => text
  | parts =>
    let stops := (parts.foldl (fun (places : List Nat) part =>
      (places.headD 0 + part.length) :: places) []).reverse
    let cut := (text.cut stops.dropLast)
    joined text.style ((cut.zip (Text.fillTabs 0 parts)).map fun (part, filled) =>
      part.refill filled)

/-! ### Lines -/

/-- The text up to a position. -/
def upTo (position : Nat) : Styled where
  text := String.ofList (text.text.toList.take position)
  style := text.style
  spans := text.spans.filterMap fun span => span.before? position

/-- The line without blanks at its end, as far as it has more characters than there are columns. -/
def trimBeyond (columns : Nat) : Styled :=
  let cs := text.text.toList
  let blanks := cs.length - (Text.trimEnd cs).length
  if blanks = 0 || cs.length ≤ columns then text
  else text.upTo (cs.length - min blanks (cs.length - columns))

/-- The line cut off at the columns. Spans are cut off too where there are fewer characters then. -/
def fitTo (columns : Nat) (overflow : Overflow) : Styled :=
  if Text.width text.text ≤ columns then text
  else
    let shown := match overflow with
      | .fold => Text.crop columns text.text
      | .ellipsis => Text.crop (columns - 1) text.text ++ "…"
    let kept := if shown.length < text.text.length then text.upTo shown.length else text
    { kept with text := shown }

/-- The lines of the text in the columns. -/
def wrap (columns : Nat) (overflow : Overflow) : List Styled :=
  text.splitLines.flatMap fun line =>
    let line := line.expandTabs
    (line.cut (Text.breaks columns (overflow == .fold) line.text)).map fun part =>
      (part.trimBeyond columns).fitTo columns overflow

/-- The lines of the text in the columns, as they are shown. -/
def lines (columns : Nat) (overflow : Overflow) : List String :=
  (text.wrap columns overflow).map Styled.text

/-- The styles that the lines of the text are shown in. -/
def styles (columns : Nat) (overflow : Overflow) : List String :=
  (text.wrap columns overflow).flatMap fun line => line.style :: line.spans.map Span.style

end Styled

end CommandGrammar
