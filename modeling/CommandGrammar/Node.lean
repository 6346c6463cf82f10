/-!
Nodes of a command grammar. A node shows a face (its name, help, visibility, priority and role) and
holds the nodes that may follow it; a command also keeps the parameters it declares, in order. A
node's number tells it from every other node, so two nodes are the same exactly when they are equal.
-/

namespace CommandGrammar

/-! ### Faces -/

/-- The host's name for a procedure that a command runs. -/
abbrev Handler := Nat

/-- How a parameter takes tokens: by its literal alone, by its literal and a value, or as a value. -/
inductive ParameterKind where
  | flag
  | named
  | simple
deriving DecidableEq, Repr

/-- What distinguishes a parameter. A parameter without a kind can match nothing. -/
structure Traits where
  kind : Option ParameterKind
  aliases : List String
  repeatable : Bool
  required : Bool
deriving DecidableEq, Repr

/-- A node's part in the grammar: a command with its handler, a command that stands for the command
at a path, or a parameter. -/
inductive Role where
  | command (handler : Option Handler)
  | wrapper (path : List String)
  | parameter (traits : Traits)
deriving DecidableEq, Repr

/-- All of a node but the nodes it holds. -/
structure Face where
  number : Nat
  name : String
  help : Option String
  isHidden : Bool
  priority : Int
  role : Role
deriving DecidableEq, Repr

/-! ### Nodes -/

/-- A node: its face, the parameters it declares and the nodes that may follow it. -/
inductive Node where
  | mk (face : Face) (parameters successors : List Node)

namespace Node

/-- Induction on a node, with the hypothesis for every node that it holds. -/
@[elab_as_elim, induction_eliminator]
theorem induction {motive : Node → Prop}
    (mk : ∀ face parameters successors, (∀ n ∈ parameters, motive n) →
      (∀ n ∈ successors, motive n) → motive (.mk face parameters successors))
    (node : Node) : motive node :=
  match node with
  | .mk face parameters successors =>
    mk face parameters successors (fun n _ => induction mk n) (fun n _ => induction mk n)

mutual
/-- Whether two nodes are the same. -/
def decideEq : (m n : Node) → Decidable (m = n)
  | .mk f ps ss, .mk g qs ts =>
    if hf : f = g then
      match decideEqAll ps qs, decideEqAll ss ts with
      | isTrue hp, isTrue hs => isTrue (by rw [hf, hp, hs])
      | isFalse hp, _ => isFalse (by intro h; cases h; exact hp rfl)
      | _, isFalse hs => isFalse (by intro h; cases h; exact hs rfl)
    else isFalse (by intro h; cases h; exact hf rfl)
/-- Whether two lists of nodes are the same. -/
def decideEqAll : (ms ns : List Node) → Decidable (ms = ns)
  | [], [] => isTrue rfl
  | [], _ :: _ => isFalse (by intro h; cases h)
  | _ :: _, [] => isFalse (by intro h; cases h)
  | m :: ms, n :: ns =>
    match decideEq m n with
    | isFalse hn => isFalse (by intro h; cases h; exact hn rfl)
    | isTrue hn =>
      match decideEqAll ms ns with
      | isTrue hs => isTrue (by rw [hn, hs])
      | isFalse hs => isFalse (by intro h; cases h; exact hs rfl)
end

/-- A node is the same as itself without a look at what it holds, so shared nodes cost nothing. -/
instance : DecidableEq Node := fun m n => withPtrEqDecEq m n fun _ => decideEq m n

/-! ### Parts -/

/-- All of the node but the nodes it holds. -/
def face : Node → Face
  | .mk face _ _ => face

/-- The parameters that the node declares, in order. -/
def parameters : Node → List Node
  | .mk _ parameters _ => parameters

/-- The nodes that may follow, in declaration order. -/
def successors : Node → List Node
  | .mk _ _ successors => successors

section

variable (n : Node)

def number : Nat := n.face.number
def name : String := n.face.name
def isHidden : Bool := n.face.isHidden
def priority : Int := n.face.priority
def role : Role := n.face.role

/-- The node is a command, a wrapper included. -/
def isCommand : Bool :=
  match n.role with
  | .command _ | .wrapper _ => true
  | .parameter _ => false

/-- The node is a parameter. -/
def isParameter : Bool := !n.isCommand

/-- The procedure that the command runs itself. -/
def handler : Option Handler :=
  match n.role with
  | .command handler => handler
  | .wrapper _ | .parameter _ => none

/-- The path of the command that a wrapper stands for. -/
def path? : Option (List String) :=
  match n.role with
  | .wrapper path => some path
  | .command _ | .parameter _ => none

/-- The node is a wrapper. -/
def isWrapper : Bool := n.path?.isSome

/-- What distinguishes the parameter. -/
def traits? : Option Traits :=
  match n.role with
  | .parameter traits => some traits
  | .command _ | .wrapper _ => none

/-- How the parameter takes tokens. -/
def kind? : Option ParameterKind := n.traits?.bind Traits.kind

/-- The parameter takes a token as a value, without a literal. -/
def isPositional : Bool := n.kind? == some .simple

/-- The parameter's literal needs a value after it. -/
def takesValue : Bool := n.kind? == some .named

/-- The node is a parameter of no kind. -/
def isKindless : Bool :=
  match n.role with
  | .parameter traits => traits.kind.isNone
  | .command _ | .wrapper _ => false

/-- The parameter may be given several times. -/
def isRepeatable : Bool := n.traits?.any Traits.repeatable

/-- The parameter has to be given. -/
def isRequired : Bool := n.traits?.any Traits.required

/-- The parameter's other names. -/
def aliases : List String :=
  match n.traits? with
  | some traits => traits.aliases
  | none => []

/-- The words that stand for the node; a positional parameter has none. -/
def literals : List String :=
  match n.role with
  | .command _ | .wrapper _ => [n.name]
  | .parameter traits =>
    match traits.kind with
    | some .simple => []
    | some .flag | some .named | none => n.name :: traits.aliases

/-! ### Listings -/

/-- How the node is written in a listing. -/
def helpSymbol : String :=
  match n.kind? with
  | some .named => n.name ++ " <value>"
  | some .simple => "<" ++ n.name ++ ">"
  | some .flag | none => n.name

/-- What the node is for, in a listing. -/
def helpText : String := n.face.help.getD ""

/-- Listing order: the higher priority first, and names in order. -/
def listedBefore (m : Node) : Bool :=
  if n.priority = m.priority then decide (n.name ≤ m.name) else decide (m.priority < n.priority)

end

/-- The nodes that may be listed, in listing order. -/
def listing (nodes : List Node) : List Node :=
  (nodes.filter fun n => !n.isHidden).mergeSort listedBefore

/-! ### Walks -/

mutual
/-- The node and all that can be reached from it, each followed by what it leads to. -/
def walk : Node → List Node
  | .mk face parameters successors => .mk face parameters successors :: walkAll successors
/-- The walks of nodes, one after another. -/
def walkAll : List Node → List Node
  | [] => []
  | n :: ns => walk n ++ walkAll ns
end

end Node

end CommandGrammar
