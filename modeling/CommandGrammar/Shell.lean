import CommandGrammar.Parser

/-!
Shells: lines run one after another over a grammar. Each line is split, matched, verified and
executed; the first fault ends the line and is displayed. A handler that fails does not end the
shell, unless it is interrupted, and no line changes how a later one is run.
-/

namespace CommandGrammar

/-- What a shell runs in: its handlers, what the host changes about displays, and the console. -/
structure Environment where
  host : Host
  hooks : Hooks
  console : Console

/-- A shell over a grammar. -/
structure Shell where
  parser : Parser
  prompt : String
  isFancy : Bool
  isColorful : Bool
  /-- The program's name, if the shell gives one. -/
  program : Option String
  /-- Where the history of lines is kept, if it is. -/
  history : Option String
  /-- The history was asked for before. -/
  isRestored : Bool

namespace Shell

/-! ### Making -/

/-- The arguments of a shell. The console can only be left out, since values are none. -/
structure Draft where
  root : Value
  prompt : Value := .text ">> "
  console : Value := .unset
  fancy : Value := .truth false
  colorful : Value := .unset
  history : Value := .unset
  prog : Value := .unset

/-- The draft over the root with the prompt, if one is given, and other arguments by their names. -/
def Draft.ofArguments (root : Value) (prompt : Option Value) (arguments : Entries Value) : Draft :=
  let draft : Draft := { root }
  { root
    prompt := prompt.getD draft.prompt
    console := arguments.getD "console" draft.console
    fancy := arguments.getD "fancy" draft.fancy
    colorful := arguments.getD "colorful" draft.colorful
    history := arguments.getD "history" draft.history
    prog := arguments.getD "prog" draft.prog }

/-- A setting that need not be given. -/
def checkOptional {α : Type} (read? : Value → Option α) (setting : ShellSetting) (value : Value) :
    Except Misuse (Option α) :=
  match value with
  | .unset => .ok none
  | value =>
    match read? value with
    | some a => .ok (some a)
    | none => .error (.setting setting)

/-- A setting that has to be given. -/
def checkGiven {α : Type} (read? : Value → Option α) (setting : ShellSetting) (value : Value) :
    Except Misuse α :=
  match read? value with
  | some a => .ok a
  | none => .error (.setting setting)

/-- The shell of a draft, on a console that is a terminal or not: styles are wanted on a terminal,
unless it is said otherwise. -/
def ofDraft (isTerminal : Bool) (draft : Draft) : Except Misuse Shell := do
  let some root := draft.root.root? | throw (.notARoot .shell)
  let prompt ← checkGiven Value.text? .prompt draft.prompt
  let _ ← checkOptional (fun _ => (none : Option Unit)) .console draft.console
  let isFancy ← checkGiven Value.truth? .fancy draft.fancy
  let colorful ← checkOptional Value.truth? .colorful draft.colorful
  let history ← checkOptional Value.text? .history draft.history
  let program ← checkOptional Value.text? .program draft.prog
  return {
    parser := .new root, prompt, isFancy, isColorful := colorful.getD isTerminal, program, history
    isRestored := false }

variable (shell : Shell)

/-- The root of the grammar. -/
def root : Root := shell.parser.root

/-- The options that the shell displays faults with. -/
def options : Options :=
  [("shell", .truth true), ("fancy", .truth shell.isFancy),
    ("colorful", .truth shell.isColorful)] ++
    match shell.program with
    | some program => [("prog", .text program)]
    | none => []

/-! ### Lines -/

/-- What displaying a fault comes to: the line is over, and was not executed. -/
def displayFault (env : Environment) (fault : Fault) : Run Bool :=
  match fault.surface shell.options env.hooks env.console with
  | .error e => .of (.error (.display e))
  | .ok (.displayed d) => ⟨[.printed (.display d)], .ok false⟩
  | .ok (.raised f) => .of (.error (.fault f))
  | .ok (.warned _) => .of (.ok false)

/-- Ends a line that came to a failure before it was executed: a fault is displayed, any other
failure is that of the call. -/
def giveUp (env : Environment) (line : String) (failure : Failure) : Run Bool :=
  match failure.fault? with
  | some fault =>
    (shell.displayFault env fault).after [.noted (.lineFailed line fault.text)]
  | none => .of (.error failure)

/-- Executes the line that was matched and verified. -/
def finish (env : Environment) (s : State) : Run Bool :=
  let run := s.runExecute env.host
  ⟨run.transcript, run.result.map fun _ => true⟩

/-- Runs the words of a line. -/
def runWords (env : Environment) (line : String) (words : List String) : Shell × Run Bool :=
  let (parser, matching) := shell.parser.parse words
  let shell := { shell with parser }
  let outcome :=
    match matching.result with
    | .error failure => shell.giveUp env line failure
    | .ok s =>
      match s.runVerify with
      | .error failure => shell.giveUp env line failure
      | .ok _ => finish env s
  (shell, outcome.after matching.transcript)

/-- Runs a line; the result tells whether it was executed. -/
def runLine (env : Environment) (line : String) : Shell × Run Bool :=
  match Line.split line with
  | .error unfinished =>
    (shell, shell.giveUp env line (.fault (.ofUnfinished line unfinished)))
  | .ok [] => (shell, .of (.ok false))
  | .ok words => shell.runWords env line words

/-- Runs a line given as a value. -/
def runValue (env : Environment) (line : Value) : Shell × Run Bool :=
  match line with
  | .text line => shell.runLine env line
  | _ => (shell, .refuse .notALine)

/-! ### Completion -/

/-- The line ends where a new word starts. -/
def startsWord (line : String) : Bool :=
  match line.toList.getLast? with
  | none => true
  | some c => Text.isBlank c

/-- The words of a line, with an empty last word where a new one starts. -/
def wordsToComplete (line : String) (words : List String) : List String :=
  if startsWord line then words ++ [""] else words

/-- The completions at the end of a line; a line at fault has none. -/
def completions (line : String) : Run (List String) :=
  match Line.split line with
  | .error _ => .of (.ok [])
  | .ok words =>
    let run := shell.parser.complete (wordsToComplete line words)
    match run.result with
    | .error (.fault _) => ⟨run.transcript, .ok []⟩
    | _ => run

/-- The completions at the end of a line given as a value. -/
def completionsOfValue (line : Value) : Run (List String) :=
  match line with
  | .text line => shell.completions line
  | _ => .refuse .notALine

/-! ### Reading lines -/

/-- What a user enters at a prompt: a line, or an interruption. -/
inductive Entered where
  | line (line : Value)
  | interruption

/-- What comes at a prompt: something entered, or the end of the input. -/
inductive Input where
  | entered (entered : Entered)
  | ending

/-- What reading lines comes to, and what came later and was not read. -/
structure Reading where
  run : Run Unit
  unread : List Input

/-- The reading with events before it. -/
def Reading.after (events : Transcript) (reading : Reading) : Reading :=
  ⟨reading.run.after events, reading.unread⟩

/-- What the shell asks of the line editor, before it reads lines; the history is asked for once. -/
def requests : List EditorRequest :=
  [.delimiters " \t\n", .completer, .bind "tab: complete"] ++
    match shell.history with
    | some path =>
      if shell.isRestored then [] else [.writeHistoryAtExit path, .readHistory path]
    | none => []

/-- Prepares to read lines; `hasHistory` tells whether there is a history to read. -/
def start (hasHistory : Bool) : Shell × Transcript :=
  let missing :=
    match shell.history with
    | some path => if shell.isRestored || hasHistory then [] else [.noted (.noHistory path)]
    | none => []
  ({ shell with isRestored := shell.isRestored || shell.history.isSome },
    shell.requests.map .requested ++ missing)

/-- Runs what was entered at the prompt. A line that fails is noted, unless the failure is an
interruption: that is passed on. -/
def respond (env : Environment) (entered : Entered) : Shell × Run Unit :=
  match entered with
  | .interruption => (shell, ⟨[.printed (.line "")], .ok ()⟩)
  | .line line =>
    let (shell, run) := shell.runValue env line
    match run.result with
    | .ok _ => (shell, ⟨run.transcript, .ok ()⟩)
    | .error failure =>
      if failure.isInterruption then (shell, ⟨run.transcript, .error failure⟩)
      else (shell, ⟨run.transcript ++ [.noted (.lineCrashed line)], .ok ()⟩)

/-- What is printed where the input ends. -/
def farewell : Transcript := [.printed (.line ""), .printed (.line "Exiting.")]

/-- Prompts and responds until the input ends, or a line is interrupted. An input that is used up has
ended. -/
def loop (env : Environment) (shell : Shell) : List Input → Shell × Reading
  | [] => (shell, ⟨⟨.prompted shell.prompt :: farewell, .ok ()⟩, []⟩)
  | .ending :: rest => (shell, ⟨⟨.prompted shell.prompt :: farewell, .ok ()⟩, rest⟩)
  | .entered entered :: rest =>
    let (next, response) := shell.respond env entered
    let asked := response.after [.prompted shell.prompt]
    match response.result with
    | .error _ => (next, ⟨asked, rest⟩)
    | .ok _ =>
      let (last, later) := loop env next rest
      (last, later.after asked.transcript)

/-- Reads and runs lines until the input ends. -/
def read (env : Environment) (hasHistory : Bool) (input : List Input) : Shell × Reading :=
  let (shell, events) := shell.start hasHistory
  let (shell, reading) := shell.loop env input
  (shell, reading.after events)

/-- Reads and runs what is entered before the input ends. -/
def run (env : Environment) (hasHistory : Bool) (input : List Entered) : Shell × Run Unit :=
  let (shell, reading) := shell.read env hasHistory (input.map .entered ++ [.ending])
  (shell, reading.run)

end Shell

/-! ### Completers -/

/-- A completer for a line editor: the matches found when it was asked for the first of them. -/
structure Completer where
  found : List String

namespace Completer

/-- The completer that was not asked yet. -/
def new : Completer := ⟨[]⟩

/-- The characters before a place; a negative place counts from the end. -/
def before (stop : Int) (buffer : String) : String :=
  let cs := buffer.toList
  String.ofList (cs.take (if stop < 0 then stop + cs.length else stop).toNat)

/-- The entry at an index; a negative index counts from the end. -/
def at? (index : Int) (found : List String) : Option String :=
  if 0 ≤ index then found[index.toNat]?
  else if 0 ≤ index + found.length then found[(index + found.length).toNat]?
  else none

/-- The match of the index for the buffer up to the cursor, followed by a blank. Matches are looked
for only when the first is asked for. -/
def ask (completer : Completer) (shell : Shell) (buffer : String) (cursor index : Int) :
    Completer × Run (Option String) :=
  let answer := fun found : List String => (at? index found).map (· ++ " ")
  if index = 0 then
    let run := shell.completions (before cursor buffer)
    match run.result with
    | .ok found => (⟨found⟩, ⟨run.transcript, .ok (answer found)⟩)
    | .error e => (completer, ⟨run.transcript, .error e⟩)
  else (completer, .of (.ok (answer completer.found)))

end Completer

end CommandGrammar
