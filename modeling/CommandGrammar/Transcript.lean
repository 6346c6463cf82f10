import CommandGrammar.Failure
import CommandGrammar.Matching.Journal

/-!
Transcripts: all that a call does besides giving a result, as events in the order in which they
happen. What was printed, noted or called is read off the transcript.
-/

namespace CommandGrammar

/-- What is printed on a console. -/
inductive Printed where
  | line (text : String)
  | display (display : Display)
deriving DecidableEq, Repr

/-- What a shell asks of the editor that reads its lines. -/
inductive EditorRequest where
  /-- Sets the characters that end the word to complete. -/
  | delimiters (characters : String)
  /-- Sets what completes words. -/
  | completer
  | bind (key : String)
  | readHistory (path : String)
  /-- Has the history written when the program ends. -/
  | writeHistoryAtExit (path : String)
deriving DecidableEq, Repr

/-- What happens. -/
inductive Event where
  | noted (note : Note)
  | called (call : Call)
  /-- A handler writes for itself. -/
  | wrote (text : String)
  | printed (printed : Printed)
  | prompted (prompt : String)
  | requested (request : EditorRequest)

/-- Events in order. -/
abbrev Transcript := List Event

namespace Transcript

variable (events : Transcript)

/-- The notes. -/
def notes : List Note :=
  events.filterMap fun
    | .noted note => some note
    | _ => none

/-- The calls of handlers. -/
def calls : List Call :=
  events.filterMap fun
    | .called call => some call
    | _ => none

/-- What handlers wrote. -/
def written : String :=
  String.join <| events.filterMap fun
    | .wrote text => some text
    | _ => none

/-- What was printed on the console. -/
def printed : List Printed :=
  events.filterMap fun
    | .printed p => some p
    | _ => none

/-- The prompts shown. -/
def prompts : List String :=
  events.filterMap fun
    | .prompted prompt => some prompt
    | _ => none

/-- What was asked of the editor. -/
def requests : List EditorRequest :=
  events.filterMap fun
    | .requested request => some request
    | _ => none

end Transcript

/-- What a call comes to: what it did, and its result. -/
structure Run (α : Type) where
  transcript : Transcript
  result : Except Failure α

namespace Run

variable {α : Type}

/-- A call that did nothing else. -/
def of (result : Except Failure α) : Run α := ⟨[], result⟩

/-- A call that is refused. -/
def refuse (m : Misuse) : Run α := ⟨[], .error (.misuse m)⟩

/-- The call with events before it. -/
def after (events : Transcript) (run : Run α) : Run α := ⟨events ++ run.transcript, run.result⟩

end Run

end CommandGrammar
