import CommandGrammar.Matching.State

/-!
Completion of the last word of a line: the literals of visible nodes at the frontier that begin with
it, those of higher priority first and then in order. The value of a named parameter completes to
nothing.
-/

namespace CommandGrammar

namespace Completion

/-- A literal that may complete a word, with the priority of the node that carries it. -/
structure Proposal where
  priority : Int
  literal : String
deriving DecidableEq, Repr

/-- The higher priority comes first, and literals come in order. -/
def Proposal.precedes (p q : Proposal) : Bool :=
  if p.priority = q.priority then decide (p.literal ≤ q.literal)
  else decide (q.priority < p.priority)

/-- The literals of visible nodes that begin with the word. -/
def proposals (frontier : List Node) (word : String) : List Proposal :=
  (frontier.filter fun n => !n.isHidden).flatMap fun n =>
    (n.literals.filter fun literal => word.toList.isPrefixOf literal.toList).map
      fun literal => ⟨n.priority, literal⟩

/-- The completions of the word at the frontier, each once. -/
def atFrontier (frontier : List Node) (word : String) : List String :=
  (((proposals frontier word).mergeSort Proposal.precedes).map Proposal.literal).eraseDups

/-- The words before the last, and the last; a line without words has an empty last word. -/
def lastWord (tokens : List String) : List String × String :=
  (tokens.dropLast, tokens.getLast?.getD "")

end Completion

/-- The completions of the last of the tokens. -/
def complete (tokens : List String) (root : Root) : Except MatchError (List String) :=
  match parse (Completion.lastWord tokens).1 root with
  | .ok s => .ok (Completion.atFrontier s.frontier (Completion.lastWord tokens).2)
  | .error (.missingValue ..) => .ok []
  | .error e => .error e

end CommandGrammar
