import CommandGrammar.Demo
import CommandGrammar.Terminal

/-!
The program: a shell over the demo grammar, on standard input and output.
-/

namespace CommandGrammar.Demo

/-- The console: a terminal of the usual width. -/
def console : Console := .terminal 80

/-- What the shell runs in. -/
def env : Environment := ⟨host, .default, console⟩

/-- The arguments of the shell. -/
def draft (root : Root) : Shell.Draft := { root := .root root, prompt := .text "arbor> " }

/-- Shows an event; notes that are no errors are shown only on request. -/
def showEvent (isVerbose : Bool) : Event → IO Unit
  | .noted note => if isVerbose || note.level == .error then IO.eprintln note.text else pure ()
  | .wrote text => IO.print text
  | .printed printed => (printed.lines console).forM IO.println
  | .prompted prompt => do
    IO.print prompt
    (← IO.getStdout).flush
  | .called _ | .requested _ => pure ()

/-- Prompts, reads a line and runs it, until the input ends. -/
partial def readLines (isVerbose : Bool) (shell : Shell) : IO Unit := do
  showEvent isVerbose (.prompted shell.prompt)
  let line ← (← IO.getStdin).getLine
  if line.isEmpty then
    Shell.farewell.forM (showEvent isVerbose)
  else
    let entered := if line.endsWith "\n" then (line.dropEnd 1).toString else line
    let (shell, response) := shell.respond env (.line (.text entered))
    response.transcript.forM (showEvent isVerbose)
    match response.result with
    | .ok _ => readLines isVerbose shell
    | .error failure => IO.eprintln failure.message

/-- Runs the shell. -/
def start (isVerbose : Bool) : IO Unit :=
  match root with
  | .error e => IO.eprintln e.message
  | .ok root =>
    match Shell.ofDraft false (draft root) with
    | .error m => IO.eprintln m.message
    | .ok shell => do
      let (shell, events) := shell.start true
      events.forM (showEvent isVerbose)
      readLines isVerbose shell

end CommandGrammar.Demo

/-- Runs the shell over the demo grammar; notes are shown if the environment asks for them. -/
def main : IO Unit := do
  let verbose ← IO.getEnv "ARBOR_DEBUG"
  CommandGrammar.Demo.start (verbose == some "1")
