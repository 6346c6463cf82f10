import CommandGrammar.Node

/-!
Selection at a frontier: which of the nodes that may come next a word stands for. A literal beats
its abbreviations, whatever their priorities; the first positional parameter takes the word when its
priority is above that of every literal candidate; otherwise the candidate of the highest priority
takes it, if it is the only one.
-/

namespace CommandGrammar

namespace Node

variable (n : Node)

/-- The word is one of the node's literals. -/
def isNamedBy (word : String) : Bool := n.literals.contains word

/-- The word begins one of the node's literals. -/
def isAbbreviatedBy (word : String) : Bool :=
  n.literals.any fun literal => word.toList.isPrefixOf literal.toList

end Node

namespace Frontier

/-! ### Candidates -/

/-- The nodes that have the word among their literals. -/
def named (frontier : List Node) (word : String) : List Node :=
  frontier.filter fun n => n.isNamedBy word

/-- The nodes that have a literal which the word begins. -/
def abbreviated (frontier : List Node) (word : String) : List Node :=
  frontier.filter fun n => n.isAbbreviatedBy word

/-- The nodes that the word stands for by a literal: in full or, failing that, abbreviated. -/
def candidates (frontier : List Node) (word : String) : List Node :=
  if (named frontier word).isEmpty then abbreviated frontier word else named frontier word

/-- The first positional parameter. -/
def positional? (frontier : List Node) : Option Node := frontier.find? Node.isPositional

/-- The highest priority among nodes. -/
def topPriority? (nodes : List Node) : Option Int := (nodes.map Node.priority).max?

/-- The nodes of the priority. -/
def atPriority (nodes : List Node) (priority : Int) : List Node :=
  nodes.filter fun n => n.priority == priority

/-! ### Selection -/

/-- What a word stands for at a frontier. -/
inductive Selection where
  | chosen (node : Node)
  /-- Several nodes share the highest priority. -/
  | tied (nodes : List Node)
  | nothing
  /-- The frontier has a parameter of no kind, which cannot be matched or passed over. -/
  | blocked
deriving DecidableEq

/-- The choice among literal candidates whose highest priority is given. -/
def selectAmong (candidates : List Node) (top : Int) : Selection :=
  match atPriority candidates top with
  | [n] => .chosen n
  | tied => .tied tied

/-- What the word stands for. -/
def select (frontier : List Node) (word : String) : Selection :=
  if frontier.any Node.isKindless then .blocked
  else
    let candidates := candidates frontier word
    match positional? frontier, topPriority? candidates with
    | none, none => .nothing
    | some p, none => .chosen p
    | none, some top => selectAmong candidates top
    | some p, some top =>
      if top < p.priority then .chosen p else selectAmong candidates top

/-! ### Advancing -/

/-- The frontier after a parameter was matched: its own successors come first, and it leaves unless
it may be repeated. -/
def advance (frontier : List Node) (parameter : Node) : List Node :=
  parameter.successors ++
    (frontier.filter fun n => n ≠ parameter || parameter.isRepeatable).filter
      fun n => n ∉ parameter.successors

end Frontier

end CommandGrammar
