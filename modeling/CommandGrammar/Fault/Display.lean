import CommandGrammar.Display
import CommandGrammar.Fault
import CommandGrammar.Text.Case
import CommandGrammar.Text.Digits

/-!
The display of a fault: a header with the program's name, the code and the title; then the message,
the candidates where the kind of fault lists them, and the hint. Styles depend on the options and on
the host, the texts do not. Hidden nodes are never listed.
-/

namespace CommandGrammar

/-! ### Hosts -/

/-- What a host changes about the display of faults. -/
structure Hooks where
  /-- Styles that go over the default ones, by the names of elements. -/
  styles : Entries String
  /-- Labels for codes. -/
  labels : List (Code × Value)
  /-- The program's name. -/
  program : Value

namespace Hooks

/-- The hooks of a host that changes nothing. -/
def default : Hooks := ⟨[], [], .text "arbor"⟩

/-- What is shown for a code: the host's label, or the number. -/
def label (hooks : Hooks) (code : Code) : String :=
  match hooks.labels.lookup code with
  | some label => label.display
  | none => toString code.number

end Hooks

/-! ### Styles -/

/-- What has a style of its own in the display of a fault. -/
inductive Element where
  | programName
  | code
  | title
  | message
  | listingLabel
  | symbol
  | helpText
  | hintArrow
  | hint
deriving DecidableEq, Repr

namespace Element

/-- The element's name in the display of an error. -/
def errorName : Element → String
  | programName => "prog-name"
  | code => "code"
  | title => "error-title"
  | message => "error-message"
  | listingLabel => "listing-label"
  | symbol => "symbol"
  | helpText => "help-text"
  | hintArrow => "hint-arrow"
  | hint => "hint"

/-- The element's name in the display of a warning. -/
def warningName : Element → String
  | title => "warning-title"
  | message => "warning-message"
  | element => element.errorName

/-- The element's default style in the display of an error. -/
def errorStyle : Element → String
  | programName => "bold #E6E6F0"
  | code => "bold #00E5FF"
  | title => "bold #FF4DA6"
  | message => "#C8C8D0"
  | listingLabel => "bold #FFFFFF"
  | symbol => "bold #00E6FF"
  | helpText => "#9CA3AF"
  | hintArrow => "#9CE19C dim"
  | hint => "italic #9CE19C"

/-- The element's default style in the display of a warning, which has no listing. -/
def warningStyle : Element → String
  | programName => "bold #E6E6F0"
  | code => "bold #FFB400"
  | title => "bold #FFC2E0"
  | message => "#D6D6DE"
  | hintArrow => "#B8EFAF dim"
  | hint => "italic #B8EFAF"
  | listingLabel | symbol | helpText => ""

/-- The element's style in the display of a fault, before it is asked whether styles are wanted. -/
def style (hooks : Hooks) (isWarning : Bool) (element : Element) : String :=
  if isWarning then hooks.styles.getD element.warningName element.warningStyle
  else hooks.styles.getD element.errorName element.errorStyle

end Element

/-! ### Options -/

/-- Why a fault cannot be displayed: an option is of a type that it cannot be, the ratio gives no
width, or the display cannot be laid out. -/
inductive DisplayError where
  | code (typeName : String)
  | candidates (typeName : String)
  | candidate (typeName : String)
  /-- The ratio is of a type that a width cannot be multiplied by. -/
  | ratio (typeName : String)
  /-- The ratio times the width is of a type that is no width. -/
  | product (typeName : String)
  /-- The ratio times the width is a text that is no integer. -/
  | digits (e : Text.IntegerError)
  | infiniteWidth
  | undefinedWidth
  | layout (e : LayoutError)
deriving DecidableEq, Repr

namespace DisplayError

/-- What is wrong, in words. -/
def message : DisplayError → String
  | code typeName => "'" ++ typeName ++ "' object has no attribute 'normalize'"
  | candidates typeName => "'" ++ typeName ++ "' object is not iterable"
  | candidate typeName => "'" ++ typeName ++ "' object has no attribute 'hidden'"
  | ratio typeName => "unsupported operand type(s) for *: 'int' and '" ++ typeName ++ "'"
  | product typeName =>
    "int() argument must be a string, a bytes-like object or a real number, not '" ++ typeName ++ "'"
  | digits e => e.message
  | infiniteWidth => "cannot convert float infinity to integer"
  | undefinedWidth => "cannot convert float NaN to integer"
  | layout e => e.message

end DisplayError

/-- The nodes among values that are all nodes. -/
def nodesAmong : List Value → Except DisplayError (List Node)
  | [] => .ok []
  | .node n :: rest => (nodesAmong rest).map (n :: ·)
  | value :: _ => .error (.candidate value.typeName)

/-- The product of a width and a ratio, without its fraction. A text is repeated as often as the
width says, and read as an integer. -/
def scaled (width : Int) (ratio : Value) : Except DisplayError Int :=
  match ratio with
  | .integer i => .ok (width * i)
  | .truth b => .ok (if b then width else 0)
  | .float x =>
    let product := Float.ofInt width * x
    match Text.truncate? product with
    | some i => .ok i
    | none => .error (if product.isNaN then .undefinedWidth else .infiniteWidth)
  | .text s => (Text.readInteger (String.join (List.replicate width.toNat s))).mapError .digits
  | .list _ | .tuple _ => .error (.product ratio.typeName)
  | ratio => .error (.ratio ratio.typeName)

namespace Fault

variable (fault : Fault)

/-- Whether styles are wanted. -/
def isColorful : Bool := (fault.options.getD "colorful" (.truth true)).isTruthy

/-- The style that an element is shown in. -/
def style (hooks : Hooks) (element : Element) : String :=
  if fault.isColorful then element.style hooks fault.kind.isWarning else ""

/-- The piece that shows a value as an element; a value that counts as false shows nothing. -/
def piece (hooks : Hooks) (element : Element) (value : Value) : Piece :=
  if value.isTruthy then .of value.display (fault.style hooks element) else ⟨"", ""⟩

/-- The label of the code, empty where there is none. -/
def codeLabel (hooks : Hooks) : Except DisplayError String :=
  match fault.option "code" with
  | .null => .ok ""
  | .code code => .ok (hooks.label code)
  | value => .error (.code value.typeName)

/-- The title: given, or the name of the kind; either way with capitals. -/
def titleText : String :=
  Text.title (fault.options.getD "title" (.text fault.kind.name)).display

/-- The candidates that may be listed, in order. -/
def visibleCandidates : Except DisplayError (List Node) :=
  let value := fault.options.getD "candidates" (.tuple [])
  match value.elements? with
  | none => .error (.candidates value.typeName)
  | some values => (nodesAmong values).map fun nodes => nodes.filter fun n => !n.isHidden

/-! ### Parts -/

/-- The header. -/
def header (hooks : Hooks) (label : String) : Styled :=
  .ofPieces [
    ⟨"[ ", ""⟩,
    fault.piece hooks .programName (fault.options.getD "prog" hooks.program),
    ⟨" — ", ""⟩,
    fault.piece hooks .code (.text label),
    ⟨" | ", ""⟩,
    fault.piece hooks .title (.text fault.titleText),
    ⟨" ]", ""⟩]

/-- The listing of candidates under its label; nothing where there is nothing to list. -/
def listing (hooks : Hooks) (candidates : List Node) : List Part :=
  match fault.kind.listing?, candidates with
  | some label, _ :: _ => [
    .text (fault.piece hooks .listingLabel (.text (label ++ ":"))).alone,
    .table {
      firstStyle := fault.style hooks .symbol
      secondStyle := fault.style hooks .helpText
      rows := candidates.map fun n => ("  " ++ n.helpSymbol, n.helpText) }]
  | _, _ => []

/-- The hint after its arrow, if there is a hint. -/
def hintLine (hooks : Hooks) : List Part :=
  let hint := fault.option "hint"
  if hint.isTruthy then
    [.text (.ofPieces
      [fault.piece hooks .hintArrow (.text " → "), fault.piece hooks .hint hint])]
  else []

/-- The frame: a panel if one is wanted, as wide as its ratio says. -/
def frame (console : Console) : Except DisplayError Frame :=
  if (fault.option "fancy").isTruthy then
    match fault.options.get? "ratio" with
    | none => .ok (.panel none)
    | some ratio => (scaled (console.width - 4) ratio).map fun width => .panel (some width)
  else .ok .none

/-- The display of the fault. -/
def display (hooks : Hooks) (console : Console) : Except DisplayError Display := do
  let label ← fault.codeLabel hooks
  let candidates ← fault.visibleCandidates
  let frame ← fault.frame console
  return {
    header := fault.header hooks label
    parts := .text (fault.piece hooks .message fault.messageValue).alone ::
      (fault.listing hooks candidates ++ fault.hintLine hooks)
    frame }

end Fault

/-! ### Surfacing -/

/-- How a fault comes to the user: displayed in a shell; elsewhere raised, or issued as a warning. -/
inductive Surfaced where
  | displayed (display : Display)
  | raised (fault : Fault)
  | warned (fault : Fault)

/-- The display of the fault, where it can be laid out on the console. -/
def Fault.displayOn (fault : Fault) (hooks : Hooks) (console : Console) :
    Except DisplayError Display := do
  let display ← fault.display hooks console
  (console.check display).mapError .layout
  return display

/-- Surfaces the fault with further options. -/
def Fault.surface (fault : Fault) (options : Options) (hooks : Hooks) (console : Console) :
    Except DisplayError Surfaced :=
  let fault := fault.withOptions options
  if (fault.option "shell").isTruthy then (fault.displayOn hooks console).map .displayed
  else if fault.kind.isWarning then .ok (.warned fault)
  else .ok (.raised fault)

end CommandGrammar
