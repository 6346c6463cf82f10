import CommandGrammar.Matching.Binding
import CommandGrammar.Matching.Frontier
import CommandGrammar.Root
import CommandGrammar.Text.Similarity

/-!
Matching a line against a grammar, one token after another. A command replaces the frontier by its
successors, a parameter is bound and the frontier advances past it, and a named parameter takes the
next token as its value. A token that was consumed is never looked at again.
-/

namespace CommandGrammar

/-! ### Errors -/

/-- Why a line does not match. Positions count from one. -/
inductive MatchError where
  /-- The word stands for nothing at the frontier. -/
  | noMatch (word : String) (position : Nat) (candidates : List Node) (suggestions : List String)
    (consumed : List String)
  /-- The word stands for several nodes of the highest priority. -/
  | ambiguous (word : String) (position : Nat) (candidates : List Node) (consumed : List String)
  /-- The line ends where the value of the parameter, called by the word, should stand. -/
  | missingValue (word : String) (parameter : Node) (position : Nat) (consumed : List String)
  /-- A parameter of no kind stands at the frontier. -/
  | blocked
deriving DecidableEq

/-- How many close literals a mismatch suggests. -/
def suggestionLimit : Nat := 5

namespace MatchError

/-- The mismatch of a word at a frontier. -/
def atFrontier (frontier : List Node) (word : String) (position : Nat) (consumed : List String) :
    MatchError :=
  let listed := Node.listing frontier
  .noMatch word position listed
    (Text.closest suggestionLimit word (listed.flatMap Node.literals)) consumed

end MatchError

/-! ### States -/

/-- How far a line has been matched. -/
structure State where
  root : Root
  /-- The nodes that may come next, in order. -/
  frontier : List Node
  bindings : Bindings
  /-- The last command matched. -/
  command : Option Node
  /-- The nodes matched, in order. -/
  trace : List Node
  /-- The tokens consumed, in order. -/
  tokens : List String

namespace State

/-- The state before the first token. -/
def start (root : Root) : State := ⟨root, root.successors, [], none, [], []⟩

variable (s : State)

/-- The state after a command was matched by the word. -/
def enter (command : Node) (word : String) : State :=
  { s with
    frontier := command.successors, command := some command, trace := s.trace ++ [command]
    tokens := s.tokens ++ [word] }

/-- The state after a parameter was matched by the words, which give it the item. -/
def record (parameter : Node) (words : List String) (item : Item) : State :=
  { s with
    frontier := Frontier.advance s.frontier parameter
    bindings := s.bindings.bind parameter item, trace := s.trace ++ [parameter]
    tokens := s.tokens ++ words }

/-- The node that the word stands for. -/
def choose (position : Nat) (word : String) : Except MatchError Node :=
  match Frontier.select s.frontier word with
  | .chosen n => .ok n
  | .tied nodes => .error (.ambiguous word position nodes s.tokens)
  | .nothing => .error (.atFrontier s.frontier word position s.tokens)
  | .blocked => .error .blocked

/-- The state after the node was matched by the word alone. -/
def take (node : Node) (word : String) : State :=
  if node.isCommand then s.enter node word
  else s.record node [word] (if node.isPositional then .word word else .present)

/-- Matches tokens from the state on, the first of them at the position. -/
def run (s : State) (position : Nat) : List String → Except MatchError State
  | [] => .ok s
  | word :: rest =>
    match s.choose position word with
    | .error e => .error e
    | .ok node =>
      if node.takesValue then
        match rest with
        | [] => .error (.missingValue word node (position + 1) (s.tokens ++ [word]))
        | value :: rest => (s.record node [word, value] (.word value)).run (position + 2) rest
      else (s.take node word).run (position + 1) rest

end State

/-- Matches a line's tokens against a grammar. -/
def parse (tokens : List String) (root : Root) : Except MatchError State :=
  (State.start root).run 1 tokens

end CommandGrammar
