import CommandGrammar.Node
import CommandGrammar.Text.Blank

/-!
The root of a grammar, with its top-level commands. A command is found by the names on the way to
it, and a wrapper is followed, path after path, to the command that it stands for.
-/

namespace CommandGrammar

/-- The root of a grammar: its top-level nodes, all of them commands. -/
structure Root where
  successors : List Node
  areCommands : ∀ n ∈ successors, n.isCommand = true

namespace Root

/-- The root over the nodes, if they are commands. -/
def ofNodes? (nodes : List Node) : Option Root :=
  if h : ∀ n ∈ nodes, n.isCommand = true then some ⟨nodes, h⟩ else none

/-- Every node of the grammar, each followed by what it leads to. -/
def walk (root : Root) : List Node := Node.walkAll root.successors

end Root

/-! ### Paths -/

/-- Why a path leads to no command. -/
inductive PathError where
  | empty
  | unknown (path : List String)
deriving DecidableEq, Repr

/-- The first command of that name. -/
def commandNamed (name : String) (nodes : List Node) : Option Node :=
  nodes.find? fun n => n.isCommand && n.name == name

/-- The command reached from a node by the names. -/
def Node.descend (node : Node) : List String → Option Node
  | [] => some node
  | step :: steps =>
    match commandNamed step node.successors with
    | some next => next.descend steps
    | none => none

namespace Root

variable (root : Root)

/-- The command reached from the root by the names. -/
def resolve : List String → Except PathError Node
  | [] => .error .empty
  | step :: steps =>
    match (commandNamed step root.successors).bind fun first => first.descend steps with
    | some node => .ok node
    | none => .error (.unknown (step :: steps))

/-- The command reached by the names in a text, which blanks separate. -/
def resolveText (path : String) : Except PathError Node :=
  root.resolve (Text.blankSeparated path)

end Root

/-! ### Reached nodes -/

theorem commandNamed_mem {name : String} {nodes : List Node} {n : Node}
    (h : commandNamed name nodes = some n) : n ∈ nodes :=
  List.mem_of_find?_eq_some h

theorem Node.mem_walk_self (n : Node) : n ∈ n.walk := by
  cases n with
  | mk face parameters successors => simp [Node.walk]

theorem Node.mem_walkAll {n : Node} {nodes : List Node} :
    n ∈ Node.walkAll nodes ↔ ∃ m ∈ nodes, n ∈ m.walk := by
  induction nodes with
  | nil => simp [Node.walkAll]
  | cons m ms ih => simp [Node.walkAll, ih]

theorem Node.mem_walk_of_successor {m n : Node} (h : n ∈ m.successors) {k : Node}
    (hk : k ∈ n.walk) : k ∈ m.walk := by
  cases m with
  | mk face parameters successors =>
    exact List.mem_cons_of_mem _ (Node.mem_walkAll.2 ⟨n, h, hk⟩)

theorem Node.mem_walk_of_descend {steps : List String} {m n : Node}
    (h : m.descend steps = some n) : n ∈ m.walk := by
  induction steps generalizing m with
  | nil =>
    cases h
    exact Node.mem_walk_self _
  | cons step steps ih =>
    rw [Node.descend] at h
    split at h
    · next next hnext => exact Node.mem_walk_of_successor (commandNamed_mem hnext) (ih h)
    · cases h

theorem Root.mem_walk_of_resolve {root : Root} {path : List String} {n : Node}
    (h : root.resolve path = .ok n) : n ∈ root.walk := by
  cases path with
  | nil => cases h
  | cons step steps =>
    rw [Root.resolve] at h
    split at h
    · next node hnode =>
      cases h
      obtain ⟨first, hfirst, hdescend⟩ := Option.bind_eq_some_iff.1 hnode
      exact Node.mem_walkAll.2 ⟨first, commandNamed_mem hfirst, Node.mem_walk_of_descend hdescend⟩
    · cases h

/-! ### Wrappers -/

/-- Why a wrapper stands for no command: the path of a wrapper on the way leads nowhere, or the way
comes back to a wrapper that it has passed. -/
inductive ChainError where
  | dangling (wrapper : Node)
  | cyclic (through : Node)
deriving DecidableEq

namespace Root

variable (root : Root)

/-- The nodes of the grammar that a chain has not passed. -/
def unseen (seen : List Node) : List Node := root.walk.filter fun n => n ∉ seen

theorem unseen_length_lt {seen : List Node} {n : Node} (hn : n ∈ root.walk) (hs : n ∉ seen) :
    (root.unseen (n :: seen)).length < (root.unseen seen).length := by
  have hsub : root.unseen (n :: seen) = (root.unseen seen).filter fun m => m ≠ n := by
    simp only [unseen, List.filter_filter]
    congr 1
    funext m
    simp [not_or]
  rw [hsub]
  exact List.length_filter_lt_length_iff_exists.2
    ⟨n, by simp [unseen, hn, hs], by simp⟩

/-- The plain command at the end of the chain of wrappers from a node, when the chain has passed
the wrappers in `seen`, the node among them. -/
def followFrom (seen : List Node) (node : Node) : Except ChainError Node :=
  match node.path? with
  | none => .ok node
  | some path =>
    match _h : root.resolve path with
    | .error _ => .error (.dangling node)
    | .ok next =>
      if _hs : next ∈ seen then .error (.cyclic next) else followFrom (next :: seen) next
termination_by (root.unseen seen).length
decreasing_by exact root.unseen_length_lt (root.mem_walk_of_resolve _h) _hs

/-- The plain command that a node stands for: itself, or the end of its chain of wrappers. -/
def follow (node : Node) : Except ChainError Node := root.followFrom [node] node

end Root

end CommandGrammar
