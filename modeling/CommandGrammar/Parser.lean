import CommandGrammar.Matching.Completion
import CommandGrammar.Transcript

/-!
Parsers: a root with the state of the last line that was matched against it. Matching a line forgets
the state before; verifying, executing and completing never change it. Arguments may be any values,
and a call with the wrong ones is refused.
-/

namespace CommandGrammar

/-! ### Arguments -/

/-- The tokens that a value is: a collection of texts that is no text itself. -/
def tokensOf? (value : Value) : Option (List String) :=
  value.collection?.bind fun items => items.mapM Value.text?

/-- The first value that is no text, with its place counted from the given one. -/
def firstOtherThanText? (place : Nat) : List Value → Option (Nat × Value)
  | [] => none
  | .text _ :: rest => firstOtherThanText? (place + 1) rest
  | value :: _ => some (place, value)

/-- The command at a path, which is a text or a collection of names. -/
def Root.resolveValue (root : Root) (path : Value) : Except Failure Node :=
  match path with
  | .text s => (root.resolveText s).mapError .path
  | path =>
    match path.elements? with
    | none => .error (.misuse (.notAPath path.typeName))
    | some steps =>
      match firstOtherThanText? 0 steps with
      | some (place, step) => .error (.misuse (.notAStep place step.typeName))
      | none => (root.resolve (steps.filterMap Value.text?)).mapError .path

/-! ### Hosts -/

/-- What calling a handler comes to: what the handler wrote, and what it returned or raised. -/
structure Reply where
  written : String
  result : Except Failure Value

/-- Calls handlers, each with what it is given: the bindings of a line by name. -/
abbrev Host := Handler → Entries Value → Reply

/-! ### Calls -/

/-- Matches tokens against a root. -/
def runParse (tokens : List String) (root : Root) : Run State :=
  let outcome := parse tokens root
  ⟨(matchNotes tokens root outcome).map .noted, outcome.mapError MatchError.failure⟩

/-- Completes the last of tokens. -/
def runComplete (tokens : List String) (root : Root) : Run (List String) :=
  let head := (Completion.lastWord tokens).1
  ⟨(matchNotes head root (parse head root)).map .noted,
    (complete tokens root).mapError MatchError.failure⟩

/-- Checks that nothing required is missing. -/
def State.runVerify (s : State) : Except Failure Unit :=
  s.verify.mapError fun lack => .fault (.ofMissingRequired lack)

/-- The call of a handler, with what the handler does. -/
def Call.run (host : Host) (call : Call) : Run Value :=
  let reply := host call.handler call.given
  ⟨[.noted (.executing call), .called call, .wrote reply.written], reply.result⟩

/-- Executes a matched line. -/
def State.runExecute (host : Host) (s : State) : Run Value :=
  match s.dispatch with
  | .error e => .of (.error (.chain e))
  | .ok .idle => .of (.ok .null)
  | .ok (.unhandled target) => ⟨[.noted (.unhandled target)], .ok .null⟩
  | .ok (.call call) => call.run host

/-- Matches tokens given as a value against a root given as a value. -/
def parseValue (tokens root : Value) : Run State :=
  match tokensOf? tokens, root.root? with
  | none, _ => .refuse .notTokens
  | some _, none => .refuse (.notARoot .state)
  | some tokens, some root => runParse tokens root

/-- Completes the last of tokens given as a value, over a root given as a value. -/
def completeValue (tokens root : Value) : Run (List String) :=
  match tokensOf? tokens, root.root? with
  | none, _ => .refuse .notTokens
  | some _, none => .refuse (.notARoot .state)
  | some tokens, some root => runComplete tokens root

/-! ### Parsers -/

/-- A root with the state of the line matched last, if it could be matched. -/
structure Parser where
  root : Root
  state : Option State

namespace Parser

/-- The parser over a root that no line was matched against. -/
def new (root : Root) : Parser := ⟨root, none⟩

/-- The parser over a root given as a value. -/
def ofValue (root : Value) : Except Misuse Parser :=
  match root.root? with
  | some root => .ok (new root)
  | none => .error (.notARoot .parser)

variable (parser : Parser)

/-- Matches tokens, and keeps the state. -/
def parse (tokens : List String) : Parser × Run State :=
  let run := runParse tokens parser.root
  ({ parser with state := run.result.toOption }, run)

/-- Matches tokens given as a value, and keeps the state. -/
def parseValue (tokens : Value) : Parser × Run State :=
  match tokensOf? tokens with
  | some tokens => parser.parse tokens
  | none => ({ parser with state := none }, .refuse .notTokens)

/-- Checks that the line matched last lacks nothing. -/
def verify : Except Failure Unit :=
  match parser.state with
  | some s => s.runVerify
  | none => .error (.misuse (.nothingMatched .verify))

/-- Executes the line matched last. -/
def execute (host : Host) : Run Value :=
  match parser.state with
  | some s => s.runExecute host
  | none => .refuse (.nothingMatched .execute)

/-- Completes the last of tokens. -/
def complete (tokens : List String) : Run (List String) := runComplete tokens parser.root

/-- Completes the last of tokens given as a value. -/
def completeValue (tokens : Value) : Run (List String) :=
  CommandGrammar.completeValue tokens (.root parser.root)

end Parser

end CommandGrammar
