import CommandGrammar.Display.Markup
import CommandGrammar.Display.Wrap
import CommandGrammar.Transcript

/-!
Terminals: consoles that show text in columns, and styles. A terminal checks a display before it
shows any of it: the styles have to be known, and the cells of a table, which are markups, have to be
well formed. Nothing of the grammar depends on how a terminal does that.
-/

namespace CommandGrammar

/-! ### Errors -/

/-- Why a terminal cannot lay a display out. -/
inductive TerminalError where
  | markup (e : Markup.Error)
  | style (name : String) (e : StyleError)
deriving DecidableEq, Repr

namespace TerminalError

/-- The integer that could not be read, if that is what is wrong. -/
def integer? : TerminalError → Option Text.IntegerError
  | markup (.integer e) => some e
  | markup _ => none
  | style _ e => e.integer?

/-- The kind of the error that is raised. -/
def kind (e : TerminalError) : String :=
  if e.integer?.isSome then "ValueError"
  else
    match e with
    | markup _ => "MarkupError"
    | style .. => "MissingStyle"

/-- What is wrong, in words. -/
def message : TerminalError → String
  | markup e => e.message
  | style name e =>
    match e.integer? with
    | some e => e.message
    | none => "Failed to get style " ++ Text.quoted name ++ "; " ++ e.message

/-- The error that the console raises. -/
def raised (e : TerminalError) : LayoutError := ⟨e.kind, e.message⟩

end TerminalError

/-! ### Texts -/

namespace Styled

/-- Checks a style in which a text is shown. What is no style changes nothing; only an integer that
cannot be read is at fault. -/
def checkStyle (name : String) : Except TerminalError Unit :=
  match Style.parse name with
  | .ok _ => .ok ()
  | .error e => if e.integer?.isSome then .error (.style name e) else .ok ()

/-- Checks that the text can be laid out in the columns. -/
def check (columns : Nat) (overflow : Overflow) (text : Styled) : Except TerminalError Unit :=
  (text.styles columns overflow).forM checkStyle

end Styled

/-! ### Columns of a table -/

namespace Table

variable (table : Table)

/-- The character ends a line where cells are measured. -/
def endsMeasuredLine (c : Char) : Bool :=
  [0x0a, 0x1c, 0x1d, 0x1e, 0x85, 0x2028, 0x2029].contains c.toNat

/-- The columns of the widest line among cells. -/
def widest (cells : List String) : Nat :=
  ((cells.flatMap fun cell => cell.toList.splitOnP endsMeasuredLine).map Text.columnsOf).foldl max 0

/-- The blanks between the two columns. -/
def gap : Nat := 2

/-- Half of a number; a half that is left goes to the even one. -/
def evenHalf (n : Nat) : Nat := if n % 4 = 3 then n / 2 + 1 else n / 2

/-- Two widths made to fit: the wider one is narrowed, and both alike from where they are equal. -/
def collapse (columns first second : Nat) : Nat × Nat :=
  let excess := first + second - columns
  if first + excess ≤ second then (first, second - excess)
  else if second + excess ≤ first then (first - excess, second)
  else
    let width := min first second
    let excess := 2 * width - columns
    (width - evenHalf excess, width - (excess - evenHalf excess))

/-- The widths of the left column, with the gap after it, and of the right one. -/
structure Widths where
  first : Nat
  second : Nat
deriving DecidableEq, Repr

/-- The left column has a place for cells. -/
def Widths.hasFirst (widths : Widths) : Bool := gap < widths.first

/-- The right column has a place for cells. -/
def Widths.hasSecond (widths : Widths) : Bool := 0 < widths.second

/-- The widths of columns with the cells, where there are so many columns in all. -/
def widthsFor (columns : Nat) (firsts seconds : List String) : Widths :=
  let first := if columns ≤ gap then columns else min columns (widest firsts + gap)
  let second := min columns (max 1 (widest seconds))
  if first + second ≤ columns then ⟨first, second⟩
  else
    let (first, second) := collapse columns first second
    ⟨first, min second (widest seconds)⟩

/-! ### Checks of a table -/

/-- Checks that a terminal knows a style. -/
def checkStyle (name : String) : Except TerminalError Unit :=
  if Style.themed.contains name then .ok ()
  else
    match Style.parse name with
    | .ok _ => .ok ()
    | .error e => .error (.style name e)

/-- The cells of a column as they are shown, from the top. -/
def renderCells (cells : List String) : Except TerminalError (List Styled) :=
  cells.mapM fun cell => (Markup.render cell).mapError .markup

/-- The widths of the columns with cells as they are shown. -/
def widthsOf (columns : Nat) (firsts seconds : List Styled) : Widths :=
  widthsFor columns (firsts.map Styled.text) (seconds.map Styled.text)

/-- Checks that the table can be laid out in the columns. It is measured first, the left column,
whose cells are passed over where there is no place for them, and then the right one; then the rows
are shown one after another. -/
def check (columns : Nat) : Except TerminalError Unit := do
  checkStyle table.firstStyle
  let firsts ← if columns ≤ gap then pure (table.rows.map fun _ => .empty)
    else renderCells (table.rows.map Prod.fst)
  checkStyle table.secondStyle
  let seconds ← renderCells (table.rows.map Prod.snd)
  let widths := widthsOf columns firsts seconds
  for (first, second) in firsts.zip seconds do
    if widths.hasFirst then first.check (widths.first - gap) .ellipsis
    if widths.hasSecond then second.check widths.second .ellipsis

end Table

/-! ### Lines -/

namespace Table

variable (table : Table)

/-- The lines of cells next to each other; one of several lines goes on below itself. -/
def rowLines (widths : Widths) (first second : Styled) : List String :=
  let firsts := if widths.hasFirst then first.lines (widths.first - gap) .ellipsis else []
  let seconds := if widths.hasSecond then second.lines widths.second .ellipsis else []
  (List.range (max 1 (max firsts.length seconds.length))).map fun i =>
    Text.padTo (widths.first - gap) (firsts.getD i "") ++ Text.blanks (min widths.first gap) ++
      Text.padTo widths.second (seconds.getD i "")

/-- The lines of the table in the columns. -/
def lines (columns : Nat) : List String :=
  let firsts := table.rows.map fun row => Markup.shown row.1
  let seconds := table.rows.map fun row => Markup.shown row.2
  let widths := widthsOf columns firsts seconds
  (firsts.zip seconds).flatMap fun (first, second) => rowLines widths first second

end Table

namespace Part

/-- The lines of a part in the columns. -/
def lines (columns : Nat) : Part → List String
  | text t => t.lines columns .fold
  | table t => t.lines columns

/-- Checks that a part can be laid out in the columns. -/
def check (columns : Nat) : Part → Except TerminalError Unit
  | text t => t.check columns .fold
  | table t => t.check columns

end Part

/-- So many characters of a panel's edge. -/
def edge (columns : Nat) : String := String.ofList (List.replicate columns '─')

/-- The columns at the sides of a panel: an edge and a blank on the left and on the right. -/
def panelSides : Nat := 4

/-- The lines of a panel of the width, around lines that fit in it. A panel without room between its
sides has no title and no lines. -/
def panelLines (width : Nat) (title : String) (lines : List String) : List String :=
  let inner := width - panelSides
  let bottom := "╰" ++ edge (width - 2) ++ "╯"
  if inner = 0 then ["╭" ++ edge (width - 2) ++ "╮", bottom]
  else
    let label := Text.crop inner title
    ["╭─" ++ label ++ edge (inner - Text.width label) ++ "─╮"] ++
      lines.map (fun line => "│ " ++ Text.padTo inner line ++ " │") ++ [bottom]

namespace Display

variable (display : Display)

/-- A text on one line. -/
def onOneLine (s : String) : String := Text.expandTabs (String.intercalate " " (s.splitOn "\n"))

/-- The title in a panel: the header on one line, between blanks. -/
def title : String := " " ++ onOneLine display.header.text ++ " "

/-- Where a position of the header comes to be in the title. -/
def titlePosition (position : Nat) : Nat :=
  1 + (onOneLine (String.ofList (display.header.text.toList.take position))).length

/-- The width of a panel on a terminal: the terminal's, or its own as far as the title fits in and
the terminal is wide enough. -/
def panelWidth (columns : Nat) (width : Option Int) : Nat :=
  min columns (max ((width.map Int.toNat).getD columns) (Text.width display.title + panelSides))

/-- Checks that the title can be laid out in the columns; spans that are cut off are passed over. -/
def checkTitle (columns : Nat) : Except TerminalError Unit :=
  let shown := (Text.crop columns display.title).length
  let spans := display.header.spans.filter fun span => display.titlePosition span.start < shown
  (display.header.style :: spans.map Span.style).forM Styled.checkStyle

/-- Checks that the display can be laid out on a terminal of the width: from the top, but the title of
a panel last. What has no place at all is passed over. -/
def check (columns : Nat) : Except TerminalError Unit :=
  match display.frame with
  | .none => do
    if columns = 0 then return
    display.header.check columns .fold
    display.parts.forM (Part.check columns)
  | .panel width => do
    let inner := display.panelWidth columns width - panelSides
    if inner = 0 then return
    display.parts.forM (Part.check inner)
    display.checkTitle inner

/-- The lines of a display on a terminal of the width. -/
def lines (columns : Nat) : List String :=
  match display.frame with
  | .none =>
    if columns = 0 then []
    else display.header.lines columns .fold ++ display.parts.flatMap (Part.lines columns)
  | .panel width =>
    let width := display.panelWidth columns width
    let inner := width - panelSides
    if columns = 0 then []
    else
      (panelLines width display.title (display.parts.flatMap (Part.lines inner))).map
        (Text.crop columns)

end Display

/-! ### The console of a terminal -/

namespace Console

/-- The console of a terminal that is so many columns wide. One without columns shows nothing. -/
def terminal (width : Int) : Console where
  width
  check display := (display.check width.toNat).mapError TerminalError.raised

/-- The columns that the console has. -/
def columns (console : Console) : Nat := console.width.toNat

end Console

/-- The lines of what was printed on a terminal. -/
def Printed.lines (console : Console) : Printed → List String
  | line text =>
    if console.columns = 0 then [] else Styled.lines ⟨text, "", []⟩ console.columns .fold
  | display d => d.lines console.columns

/-- The text on a terminal after all was printed. -/
def Console.text (console : Console) (printed : List Printed) : String :=
  String.join ((printed.flatMap fun p => p.lines console).map (· ++ "\n"))

end CommandGrammar
