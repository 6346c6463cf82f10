import CommandGrammar.Matching.Dispatch

/-!
The journal: notes on what was matched and done, for whoever looks into a grammar. Notes do not
change what happens.
-/

namespace CommandGrammar

/-! ### Matches -/

/-- A word that was matched to a node. -/
structure Match where
  word : String
  position : Nat
  node : Node
deriving DecidableEq

namespace State

/-- The choices made from the state on, one for every word that stood for a node, in order. -/
def choices (s : State) (position : Nat) : List String → List Match
  | [] => []
  | word :: rest =>
    match s.choose position word with
    | .error _ => []
    | .ok node =>
      ⟨word, position, node⟩ ::
        if node.takesValue then
          match rest with
          | [] => []
          | value :: rest => (s.record node [word, value] (.word value)).choices (position + 2) rest
        else (s.take node word).choices (position + 1) rest

end State

/-! ### Notes -/

/-- Which part of the library makes a note. -/
inductive Source where
  | grammar
  | matching
  | shell
deriving DecidableEq, Repr

namespace Source

/-- The part's name. -/
def name : Source → String
  | grammar => "arbor.builder"
  | matching => "arbor.parser"
  | shell => "arbor.shell"

end Source

/-- How much a note matters. -/
inductive Level where
  | debug
  | error
deriving DecidableEq, Repr

namespace Level

/-- The level's name. -/
def name : Level → String
  | debug => "DEBUG"
  | error => "ERROR"

end Level

/-- A note. -/
inductive Note where
  /-- A root was built, with so many top-level commands. -/
  | built (commands : Nat)
  | matched (found : Match)
  | unmatched (word : String) (position : Nat)
  | ambiguous (word : String) (position : Nat) (candidates : List Node)
  | unhandled (target : Node)
  | executing (call : Call)
  /-- A line was at fault. -/
  | lineFailed (line message : String)
  /-- A line could not be run to its end. -/
  | lineCrashed (line : Value)
  | noHistory (path : String)

namespace Note

/-- Which part makes the note. -/
def source : Note → Source
  | built _ => .grammar
  | matched _ | unmatched .. | ambiguous .. | unhandled _ | executing _ => .matching
  | lineFailed .. | lineCrashed _ | noHistory _ => .shell

/-- How much the note matters. -/
def level : Note → Level
  | lineCrashed _ => .error
  | built _ | matched _ | unmatched .. | ambiguous .. | unhandled _ | executing _ | lineFailed ..
  | noHistory _ => .debug

/-- The note in words. -/
def text : Note → String
  | built commands => "finalized grammar with " ++ toString commands ++ " top-level commands"
  | matched ⟨word, position, node⟩ =>
    "matched " ++ Text.quoted word ++ " at position " ++ toString position ++ " to " ++ node.inspect
  | unmatched word position =>
    "no match for " ++ Text.quoted word ++ " at position " ++ toString position
  | ambiguous word position candidates =>
    "ambiguous match for " ++ Text.quoted word ++ " at position " ++ toString position ++ ": " ++
      Inspect.list (candidates.map Node.inspect)
  | unhandled target => "command " ++ Text.quoted target.name ++ " has no handler"
  | executing call =>
    "executing " ++ Text.quoted call.target.name ++ " with " ++
      (Value.dictionary call.given).inspect
  | lineFailed line message => "line " ++ Text.quoted line ++ " failed: " ++ message
  | lineCrashed line => "command " ++ line.inspect ++ " failed"
  | noHistory path => "no history file at " ++ Text.quoted path

end Note

namespace MatchError

/-- The note on a word that could not be matched. -/
def note? : MatchError → Option Note
  | noMatch word position .. => some (.unmatched word position)
  | ambiguous word position candidates _ => some (.ambiguous word position candidates)
  | missingValue .. | blocked => none

end MatchError

/-- The notes on matching tokens against a grammar, which comes to the outcome. -/
def matchNotes (tokens : List String) (root : Root) (outcome : Except MatchError State) :
    List Note :=
  ((State.start root).choices 1 tokens).map Note.matched ++
    match outcome with
    | .ok _ => []
    | .error e => e.note?.toList

end CommandGrammar
