import CommandGrammar.Literal.Form
import CommandGrammar.Literal.Quotation

/-!
Reading tokens as an expression. A reader takes tokens from the front; it may not find what it looks
for, and then takes none, or come to an error, which ends the reading. A strict reader looks for
usual mistakes where it finds no expression.
-/

namespace CommandGrammar.Literal

/-- Takes tokens from the front. -/
abbrev Reader := StateT (List Token) (OptionT (Except Error))

/-- What an expression may be part of: the rules that are used in several places. -/
inductive Rule where
  | expression
  | disjunction
  | inversion
  | arithmetic
  | factor
  /-- Expressions with commas between them. -/
  | expressions
  /-- The same where mistakes were not looked for in the first one's beginning. -/
  | furtherExpressions
  /-- What a comprehension may assign to. -/
  | target
deriving DecidableEq, Repr

namespace Reader

/-- Ends the reading. -/
def raise {α : Type} (e : Error) : Reader α := fun _ => OptionT.lift (.error e)

/-- The kind of the next token. A bracket that is never closed is found where its end is looked
for, and so is what is no token. -/
def peek : Reader Kind := do
  match ← get with
  | [] => return .finish
  | token :: _ =>
    match token.kind with
    | .unfinished bracket => raise (.neverClosed bracket)
    | .foreign e => raise e
    | kind => return kind

/-- The number of brackets that are open after the last token that was taken from the given ones. -/
def depthSince (start : List Token) : Reader Nat := do
  let taken := start.length - (← get).length
  return ((start[taken - 1]?).map Token.depth).getD 0

/-- Takes the next token. -/
def skip : Reader Unit := modify (List.drop 1)

/-- Whether the next token is the mark. -/
def sees (mark : String) : Reader Bool := return (← peek) == .mark mark

/-- Takes the mark. -/
def mark (s : String) : Reader Unit := do
  unless ← sees s do failure
  skip

/-- Whether the next token is one of the words. -/
def seesWord (words : List String) : Reader Bool := do
  match ← peek with
  | .word s => return words.contains s
  | _ => return false

/-- Takes one of the words. -/
def word (words : List String) : Reader Unit := do
  unless ← seesWord words do failure
  skip

/-- What a reader would find here, which is not taken. -/
def ahead {α : Type} (reader : Reader α) : Reader (Option α) := do
  let tokens ← get
  let found ← optional reader
  set tokens
  return found

/-- All that a reader finds, one after another, at most as often as given. -/
def many {α : Type} (reader : Reader α) : Nat → Reader (List α)
  | 0 => pure []
  | n + 1 => do
    match ← optional reader with
    | some first => return first :: (← many reader n)
    | none => return []

/-- As many as there are tokens. -/
def all {α : Type} (reader : Reader α) : Reader (List α) := do many reader (← get).length

end Reader

open Reader

/-- The words that are never names. -/
def reserved : List String := Text.blankSeparated "
  False None True and as assert async await break class continue def del elif else except finally for
  from global if import in is lambda nonlocal not or pass raise return try while with yield"

/-- Words that are names, but not before another expression. -/
def halfReserved : List String := ["_", "case", "match"]

/-- Takes a name. -/
def name : Reader String := do
  match ← peek with
  | .word s => if reserved.contains s then failure else skip; return s
  | _ => failure

/-! ### Quotations -/

/-- Checks quotations that stand next to each other, after others of which it is known whether they
were bytes. -/
def checkQuotations (areBytes : Bool) : List Quotation → Except Error Unit
  | [] => .ok ()
  | q :: qs => do
    if let some e := q.fault then throw e
    if q.isBytes != areBytes then throw .mixedTexts
    checkQuotations areBytes qs

/-- Takes a quotation. -/
def quotation : Reader Quotation := do
  match ← peek with
  | .quotation q => skip; return q
  | _ => failure

/-- Takes quotations that stand next to each other. -/
def quotations : Reader Form := do
  let first ← quotation
  let rest ← all quotation
  match checkQuotations first.isBytes (first :: rest) with
  | .error e => raise e
  | .ok _ => return .text ((first :: rest).any Quotation.isFormatted)

/-! ### Lists -/

/-- Takes one or more of something, with commas between them and perhaps after the last one, and tells
whether there was a comma. -/
def commaSeparated {α : Type} (reader : Reader α) : Reader (List α × Bool) := do
  let first ← reader
  let rest ← all do
    mark ","
    reader
  let last ← optional (mark ",")
  return (first :: rest, !rest.isEmpty || last.isSome)

section

variable (self : Bool → Rule → Reader Form) (isStrict : Bool)

/-- Takes something by a rule. -/
def use (rule : Rule) : Reader Form := self isStrict rule

/-- Comes to the error if the reader is strict. -/
def mistake {α : Type} (e : Error) : Reader α := if isStrict then raise e else failure

/-! ### Names with values -/

/-- Looks for an equals sign after an expression, which the first token begins. -/
def checkEquals (first : Kind) (form : Form) : Reader Unit := do
  let rest ← ahead do
    mark "="
    let _ ← use self isStrict .arithmetic
    if (← sees "=") || (← sees ":=") then failure
  if rest.isSome then
    match first, form with
    | .word _, .name _ => raise .equalsAfterName
    | .word s, form =>
      if form.isArithmetic && !(["True", "False", "None"].contains s) then
        raise (.equalsAfter form.description)
    | _, .tuple _ | _, .generator => return
    | _, form => if form.isArithmetic then raise (.equalsAfter form.description)

/-- Takes what follows an expression that begins at `start` where it may be the name of a value. -/
def namedFrom (start : List Token) (form : Form) : Reader Form := do
  if ← sees ":=" then
    match form, start.length - (← get).length with
    | .name _, 1 =>
      skip
      let _ ← use self isStrict .expression
      return .binding
    | form, _ =>
      let rest ← ahead do
        skip
        use self isStrict .expression
      if rest.isSome then mistake isStrict (.bindsForm form.description) else failure
  if isStrict then checkEquals self isStrict ((start.head?.map Token.kind).getD .finish) form
  return form

/-- Takes an expression, or a name with the expression that it is bound to. -/
def named : Reader Form := do
  let start ← get
  let form ← use self isStrict .expression
  namedFrom self isStrict start form

/-- Takes all that a form holds, after a star. -/
def spread : Reader Form := do
  mark "*"
  return .starred (← use self isStrict .arithmetic)

/-- Takes an item of a list. -/
def item : Reader Form := do
  if ← sees "*" then spread self isStrict else named self isStrict

/-- Takes the items that follow a comma each, and perhaps a last comma. -/
def furtherItems : Reader (List Form) := do
  let items ← all do
    mark ","
    item self isStrict
  let _ ← optional (mark ",")
  return items

/-! ### Comprehensions -/

/-- Takes the word before the targets of a comprehension. -/
def beforeTargets : Reader Unit := do
  let _ ← optional (word ["async"])
  word ["for"]

/-- Takes the targets of a comprehension and the word after them. -/
def targets : Reader Unit := do
  beforeTargets
  let _ ← commaSeparated (use self isStrict .target)
  word ["in"]

/-- Looks for something among the targets that nothing can be assigned to. -/
def checkTargets : Reader Unit := do
  beforeTargets
  if let some form := (← use self isStrict .expressions).unassignable? then
    raise (.assigned form.description)

/-- Takes what a comprehension goes through: targets and where they come from, with conditions. -/
def source : Reader Unit := do
  if (← optional (targets self isStrict)).isNone then
    if isStrict then checkTargets self isStrict
    failure
  let _ ← use self isStrict .disjunction
  let _ ← all do
    word ["if"]
    use self isStrict .disjunction

/-- Takes one or more sources. -/
def sources : Reader Unit := do
  source self isStrict
  let _ ← all (source self isStrict)

/-- Whether sources follow. -/
def seesSource : Reader Bool := seesWord ["for", "async"]

/-! ### Parentheses and braces -/

/-- Takes what stands after the word "yield". -/
def yielded : Reader Form := do
  word ["yield"]
  if ← seesWord ["from"] then
    skip
    let _ ← use self isStrict .expression
  else
    let _ ← optional (use self isStrict .expressions)
  return .yielded

/-- Takes what follows the first item in parentheses. -/
def afterFirst (first : Form) : Reader Form := do
  if ← sees "," then
    let items ← furtherItems self isStrict
    return .tuple (first :: items)
  match first, ← seesSource with
  | .starred _, _ => failure
  | _, true =>
    sources self isStrict
    return .generator
  | first, false => return first

/-- Looks for a star before an expression that cannot be spread; `closing` may follow it. -/
def checkSpread (closing : Option String) : Reader Unit := do
  if ← sees "*" then
    skip
    if (← optional (use self isStrict .expression)).isNone then raise .bareStar
    if let some closing := closing then
      if ← sees closing then raise .starInParentheses
    if (← optional (sources self isStrict)).isSome then raise .starInComprehension

/-- Looks for mistakes after an opening parenthesis. -/
def checkParenthesized : Reader Unit := do
  if ← sees "**" then
    skip
    let _ ← use self isStrict .expression
    if ← sees ")" then raise .twoStarsInParentheses
  else checkSpread self isStrict (some ")")

/-- Takes what stands in parentheses. -/
def parenthesized : Reader Form := do
  mark "("
  if ← sees ")" then
    skip
    return .tuple []
  let found ← optional do
    let form ← if ← seesWord ["yield"] then yielded self isStrict
      else afterFirst self isStrict (← item self isStrict)
    mark ")"
    return form
  match found with
  | some form => return form
  | none =>
    if isStrict then checkParenthesized self isStrict
    failure

/-- Takes the value of an entry, after its key. -/
def entryValue : Reader Form := do
  mark ":"
  if (← sees "\x7d") || (← sees ",") then raise .missingValue
  if ← sees "*" then
    if (← ahead (spread self isStrict)).isSome then raise .starAsValue
  use self isStrict .expression

/-- Takes the entries of another dictionary, after two stars. -/
def spreadEntries : Reader (Option Form × Form) := do
  mark "**"
  return (none, ← use self isStrict .arithmetic)

/-- Takes an entry of a dictionary that is not the first one. -/
def entry : Reader (Option Form × Form) := do
  if ← sees "**" then spreadEntries self isStrict
  else
    let key ← use self isStrict .expression
    unless ← sees ":" do raise .missingColon
    return (some key, ← entryValue self isStrict)

/-- Takes what follows the first entry in braces. -/
def afterFirstEntry (first : Option Form × Form) : Reader Form := do
  if ← seesSource then
    sources self isStrict
    if first.1.isNone then mistake isStrict .twoStarsInComprehension
    return .dictionaryOf
  let entries ← all do
    mark ","
    entry self isStrict
  let _ ← optional (mark ",")
  return .dictionary (first :: entries)

/-- Takes what follows the first item in braces. -/
def afterFirstElement (first : Form) : Reader Form := do
  match first, ← seesSource with
  | .starred _, true => failure
  | _, true =>
    sources self isStrict
    return .setOf
  | first, false =>
    let items ← furtherItems self isStrict
    return .set (first :: items)

/-- Looks for mistakes after an opening brace. -/
def checkBraced : Reader Unit := do
  let _ ← ahead (checkSpread self isStrict none)
  let _ ← item self isStrict
  mark ","
  let _ ← optional (commaSeparated (item self isStrict))
  sources self isStrict
  raise .bareTargets

/-- Takes what stands in braces. -/
def braced : Reader Form := do
  mark "\x7b"
  if ← sees "\x7d" then
    skip
    return .dictionary []
  let found ← optional do
    let form ← if ← sees "**" then afterFirstEntry self isStrict (← spreadEntries self isStrict)
      else if ← sees "*" then afterFirstElement self isStrict (← spread self isStrict)
      else
        let start ← get
        let first ← use self isStrict .expression
        if ← sees ":" then
          afterFirstEntry self isStrict (some first, ← entryValue self isStrict)
        else afterFirstElement self isStrict (← namedFrom self isStrict start first)
    mark "\x7d"
    return form
  match found with
  | some form => return form
  | none =>
    if isStrict then checkBraced self isStrict
    failure

/-! ### Calls -/

/-- What kinds of arguments a call has had. -/
structure Given where
  any : Bool
  named : Bool
  dictionaries : Bool
deriving DecidableEq, Repr

/-- Takes an argument that begins with an expression. -/
def plainArgument (given : Given) : Reader Given := do
  let start ← get
  let form ← use self isStrict .expression
  let isName := match form, start.length - (← get).length with
    | .name _, 1 => true
    | _, _ => false
  if ← sees "=" then
    match isName, form, start.length - (← get).length with
    | true, _, _ =>
      skip
      let _ ← use self isStrict .expression
      if ← seesSource then mistake isStrict .equalsAfterName
      return { given with any := true, named := true }
    | _, .constant s, 1 =>
      if s != "..." then mistake isStrict (.assigned s)
      else mistake isStrict .equalsInArgument
    | _, _, _ => mistake isStrict .equalsInArgument
  if ← sees ":=" then
    unless isName do failure
    skip
    let _ ← use self isStrict .expression
  if given.dictionaries then mistake isStrict .positionalAfterDictionary
  if given.named then mistake isStrict .positionalAfterNamed
  if ← seesSource then
    sources self isStrict
    if given.any || !(← sees ")") then mistake isStrict .bareGenerator
  return { given with any := true }

/-- Takes an argument. -/
def argument (given : Given) : Reader Given := do
  if ← sees "**" then
    skip
    let _ ← use self isStrict .expression
    return { given with any := true, dictionaries := true }
  if ← sees "*" then
    if given.dictionaries then mistake isStrict .starAfterDictionary
    skip
    match ← optional (use self isStrict .expression) with
    | some _ => return { given with any := true }
    | none => raise .bareStar
  plainArgument self isStrict given

/-- Takes at most so many arguments. -/
def arguments (given : Given) : Nat → Reader Unit
  | 0 => return
  | n + 1 => do
    if ← sees ")" then return
    let given ← argument self isStrict given
    if ← sees "," then
      skip
      arguments given n

/-- Takes what follows a form that is closer to it than every operation: the name of a member, or
arguments. -/
def suffix (form : Form) : Reader Form := do
  if ← sees "." then
    skip
    let _ ← name
    return .member
  if isStrict then
    let _ ← ahead do
      mark "\x7b"
      checkBraced self isStrict
  mark "("
  let hasArguments := !(← sees ")")
  arguments self isStrict ⟨false, false, false⟩ (← get).length
  mark ")"
  return .call form hasArguments

/-- Takes at most so many suffixes. -/
def suffixes (form : Form) : Nat → Reader Form
  | 0 => return form
  | n + 1 => do
    match ← optional (suffix self isStrict form) with
    | some form => suffixes form n
    | none => return form

/-! ### Operands -/

/-- Takes a word or a mark that stands for a value, a name or a number. -/
def single : Reader Form := do
  match ← peek with
  | .word s =>
    if ["None", "True", "False"].contains s then
      skip
      return .constant s
    return .name (← name)
  | .number isImaginary length =>
    if Text.IntegerError.longest < length then raise (.tooLong length)
    skip
    return .number isImaginary
  | .mark "..." =>
    skip
    return .constant "..."
  | _ => failure

/-- Takes an operand without suffixes. -/
def atom : Reader Form := do
  match ← peek with
  | .quotation _ => quotations
  | .mark "(" => parenthesized self isStrict
  | .mark "\x7b" => braced self isStrict
  | _ => single

/-- Takes an operand with its suffixes. -/
def primary : Reader Form := do
  let first ← atom self isStrict
  suffixes self isStrict first (← get).length

/-- Takes what a comprehension may assign to: a name, a member, or such things in parentheses. -/
def target : Reader Form := do
  if ← sees "*" then
    skip
    if ← sees "*" then failure
    let _ ← use self isStrict .target
  else
    let found ← optional do
      match ← primary self isStrict with
      | .name s => return .name s
      | .member => return .member
      | _ => failure
    if let some form := found then return form
    mark "("
    unless ← sees ")" do
      let _ ← commaSeparated (use self isStrict .target)
    mark ")"
  return .member

/-- Takes an operand, which may be awaited. -/
def operand : Reader Form := do
  if ← seesWord ["await"] then
    skip
    let _ ← primary self isStrict
    return .awaited
  primary self isStrict

/-- Takes an operand with the signs before it and the power after it. -/
def factor : Reader Form := do
  if ← sees "~" then
    skip
    let _ ← use self isStrict .factor
    return .operation
  if (← sees "+") || (← sees "-") then
    skip
    return .signed (← use self isStrict .factor)
  let base ← operand self isStrict
  let power ← optional do
    mark "**"
    use self isStrict .factor
  return if power.isSome then .operation else base

/-- The marks of the operations on two operands. -/
def operations : List String := ["+", "-", "*", "/", "//", "%", "@", "<<", ">>", "&", "^", "|"]

/-- Takes the mark of an operation, which it gives. -/
def operator : Reader String := do
  match ← peek with
  | .mark s => if operations.contains s then skip; return s else failure
  | _ => failure

/-- Takes factors with operations between them. -/
def arithmetic : Reader Form := do
  let first ← factor self isStrict
  let rest ← all do
    let s ← operator
    return (s, ← factor self isStrict)
  return rest.foldl (fun left (s, right) =>
    if s == "+" || s == "-" then .sum left right else .operation) first

/-! ### Conditions -/

/-- Takes the mark or the words of a comparison, and tells whether it asks for an element. -/
def comparator : Reader Bool := do
  match ← peek with
  | .mark s =>
    unless ["==", "!=", "<", "<=", ">", ">="].contains s do failure
    skip
    return false
  | .word "in" =>
    skip
    return true
  | .word "is" =>
    skip
    let _ ← optional (word ["not"])
    return false
  | .word "not" =>
    skip
    word ["in"]
    return false
  | _ => failure

/-- Takes a comparison, or what stands closer together. -/
def comparison : Reader Form := do
  let first ← arithmetic self isStrict
  let rest ← all do
    let isMembership ← comparator
    let _ ← arithmetic self isStrict
    return isMembership
  return match rest with
    | [] => first
    | isMembership :: _ => .comparison first isMembership

/-- Takes a condition that may be negated. -/
def inversion : Reader Form := do
  if ← seesWord ["not"] then
    skip
    let _ ← use self isStrict .inversion
    return .logic
  comparison self isStrict

/-- Takes something by a reader with one of the words between each two, and gives their logic, or the
only one that there is. -/
def joined (joint : String) (reader : Reader Form) : Reader Form := do
  let first ← reader
  let rest ← all do
    word [joint]
    reader
  return if rest.isEmpty then first else .logic

/-- Takes conditions with "or" between them. -/
def disjunction : Reader Form := joined "or" (joined "and" (inversion self isStrict))

/-! ### Expressions -/

/-- Takes a parameter of a function, or the mark of a group of them. -/
def parameter : Reader Unit := do
  if ← sees "/" then skip
  else if (← sees "*") || (← sees "**") then
    skip
    let _ ← optional name
  else
    let _ ← name
    let _ ← optional do
      mark "="
      use self isStrict .expression

/-- Takes a function: its parameters and its expression. -/
def function : Reader Form := do
  word ["lambda"]
  let _ ← optional (commaSeparated (parameter self isStrict))
  mark ":"
  let _ ← use self isStrict .expression
  return .function

/-- Names of procedures that could once be called without parentheses. -/
def oldProcedures : List String := ["print", "exec"]

/-- The tokens begin with a name that may stand before another expression: before a quotation, or a
half reserved one. -/
def beginsHalf (start : List Token) : Bool :=
  match start.map Token.kind with
  | .word s :: .quotation _ :: _ => !reserved.contains s
  | .word s :: _ => halfReserved.contains s
  | _ => false

/-- Looks for a missing comma after a form that begins at `start`. -/
def checkComma (start : List Token) (form : Form) : Reader Unit := do
  unless beginsHalf start do
    let depth ← ahead do
      let start ← get
      let _ ← self false .expression
      depthSince start
    let isOld := match form with
      | .name s => oldProcedures.contains s
      | _ => false
    if depth.any (0 < ·) && !isOld then raise .missingComma

/-- Looks for missing parentheses after a name, with which `start` begins. -/
def checkOldProcedure (start : List Token) : Reader Unit := do
  match start.map Token.kind with
  | .word s :: next :: _ =>
    if !reserved.contains s && next != .mark "(" then
      let here ← get
      set (start.drop 1)
      let rest ← ahead (self true (if beginsHalf start then .expressions else .furtherExpressions))
      set here
      if rest.isSome && oldProcedures.contains s then raise (.missingParentheses s)
  | _ => return

/-- Takes an expression that begins at `start`, after its first part. -/
def expressionAfter (start : List Token) (first : Form) : Reader Form := do
  if isStrict then checkComma self start first
  let rest ← optional do
    word ["if"]
    let _ ← use self isStrict .disjunction
    if isStrict && !(← seesWord ["else"]) && !(← sees ":") then raise .missingElse
    word ["else"]
    use self isStrict .expression
  if isStrict then checkOldProcedure self start
  return if rest.isSome then .conditional else first

/-- Takes an expression. -/
def expression : Reader Form := do
  if ← seesWord ["lambda"] then function self isStrict
  else
    let start ← get
    expressionAfter self isStrict start (← disjunction self isStrict)

/-- Takes an expression without a look for mistakes in its first part, or all that one holds. -/
def furtherExpression : Reader Form := do
  if ← sees "*" then spread self isStrict
  else if ← seesWord ["lambda"] then function self isStrict
  else
    let start ← get
    expressionAfter self isStrict start (← self false .disjunction)

/-- Takes an expression, or all that one holds. -/
def spreadOrExpression : Reader Form := do
  if ← sees "*" then spread self isStrict else use self isStrict .expression

/-- The form of expressions with commas between them. -/
def tupleOf (forms : List Form) (isTuple : Bool) : Form :=
  match isTuple, forms with
  | false, [form] => form
  | _, forms => .tuple forms

/-- Takes expressions with commas between them, the first one by the reader. -/
def expressionsFrom (reader : Reader Form) : Reader Form := do
  let first ← reader
  let rest ← all do
    mark ","
    spreadOrExpression self isStrict
  let last ← optional (mark ",")
  return tupleOf (first :: rest) (!rest.isEmpty || last.isSome)

/-- Takes something by a rule, where parts are taken by `self`. -/
def step : Rule → Reader Form
  | .expression => expression self isStrict
  | .disjunction => disjunction self isStrict
  | .inversion => inversion self isStrict
  | .arithmetic => arithmetic self isStrict
  | .factor => factor self isStrict
  | .expressions => expressionsFrom self isStrict (spreadOrExpression self isStrict)
  | .furtherExpressions => expressionsFrom self isStrict (furtherExpression self isStrict)
  | .target => target self isStrict

end

/-- Takes something by a rule, through at most so many rules inside each other. -/
def read : Nat → Bool → Rule → Reader Form
  | 0, _, _ => failure
  | fuel + 1, isStrict, rule => step (read fuel) isStrict rule

/-- Takes expressions with commas between them, up to the end of the text. -/
def whole (isStrict : Bool) : Reader Form := do
  if (← peek) == .indent then raise .indented
  let fuel := 8 * (← get).length + 8
  let (forms, isTuple) ← commaSeparated (read fuel isStrict .expression)
  let _ ← all do
    unless (← peek) == .newline do failure
    skip
  if (← peek) == .indent then raise .indented
  unless (← peek) == .finish do failure
  return tupleOf forms isTuple

/-- The expression that tokens are, whose quotations are checked. Mistakes are looked for only where there is none. What is no token
comes before all other errors, unless the reading ended at an indent; but a backslash has to be met. -/
def readForm (tokens : List Token) : Except Error Form :=
  let outcome : Except Error Form := do
    if let some (form, _) ← ((whole false).run tokens).run then return form
    let _ ← ((whole true).run tokens).run
    throw .notAnExpression
  match outcome, tokens.getLast?.map Token.kind with
  | .error .indented, _ | _, some (.foreign .continuation) => outcome
  | .error _, some (.foreign e) => .error e
  | outcome, _ => outcome

/-- The expression that a text is, where there are at most so many texts in places of each other. -/
def readText : Nat → String → Except Error Form
  | 0, _ => .error .notAnExpression
  | fuel + 1, text =>
    readForm <| (tokens text).map (Token.checked fun expression =>
      match readText fuel expression with
      | .ok _ => .ok ()
      | .error e => .error e)

end CommandGrammar.Literal
