import CommandGrammar.Build

/-!
The registry of a grammar: command descriptions are registered one by one, and a root is built from
all of them. Building checks that every wrapper stands for a command, and warns of siblings that
share a literal at one priority, since typing it could never choose between them.
-/

namespace CommandGrammar

/-! ### Shared literals -/

/-- Siblings that share a literal at one priority. -/
structure Ambiguity where
  literal : String
  priority : Int
  siblings : List Node
deriving DecidableEq

/-- Every literal among siblings with the sibling that carries it, in order. -/
def carriedLiterals (siblings : List Node) : List (String × Node) :=
  siblings.flatMap fun n => n.literals.map fun literal => (literal, n)

/-- The siblings that carry the literal at the priority; one that carried it twice counts twice. -/
def carriers (siblings : List Node) (literal : String) (priority : Int) : List Node :=
  ((carriedLiterals siblings).filter fun (l, n) => l == literal && n.priority == priority).map
    Prod.snd

/-- The literals that several siblings share at one priority, in the order of their first use. -/
def ambiguitiesAmong (siblings : List Node) : List Ambiguity :=
  (((carriedLiterals siblings).map fun (literal, n) => (literal, n.priority)).eraseDups.map
    fun (literal, priority) => ⟨literal, priority, carriers siblings literal priority⟩).filter
    fun a => 2 ≤ a.siblings.length

namespace Root

/-- The root's successors and those of every node, in the order of the walk. -/
def siblingGroups (root : Root) : List (List Node) :=
  root.successors :: root.walk.map Node.successors

/-- The shared literals of the grammar. -/
def ambiguities (root : Root) : List Ambiguity := root.siblingGroups.flatMap ambiguitiesAmong

end Root

/-! ### Building -/

/-- Why no root can be built. -/
inductive BuildError where
  | argument (e : ArgumentError)
  /-- The path of the wrapper, or of one that it leads to, names no command. -/
  | unknownTarget (wrapper : String) (path : List String)
  /-- The wrapper's chain comes back to a command that it has passed. -/
  | selfWrapping (wrapper through : String)
deriving DecidableEq

namespace BuildError

/-- What is wrong, in words. -/
def message : BuildError → String
  | argument e => e.message
  | unknownTarget wrapper path =>
    "wrapper " ++ Text.quoted wrapper ++ " wraps unknown command " ++
      Text.quoted (String.intercalate " " path)
  | selfWrapping wrapper through =>
    "wrapper " ++ Text.quoted wrapper ++ " wraps itself through " ++ Text.quoted through

end BuildError

namespace Root

variable (root : Root)

/-- Follows the wrapper's chain to its end. -/
def checkWrapper (wrapper : Node) : Except BuildError Unit :=
  match root.follow wrapper with
  | .ok _ => .ok ()
  | .error (.dangling last) => .error (.unknownTarget wrapper.name (last.path?.getD []))
  | .error (.cyclic through) => .error (.selfWrapping wrapper.name through.name)

/-- Follows the chains of all wrappers among the nodes. -/
def checkWrappersAmong : List Node → Except BuildError Unit
  | [] => .ok ()
  | n :: ns =>
    match if n.isWrapper then root.checkWrapper n else .ok () with
    | .ok _ => checkWrappersAmong ns
    | .error e => .error e

/-- Follows the chains of all wrappers of the grammar. -/
def checkWrappers : Except BuildError Unit := root.checkWrappersAmong root.walk

end Root

/-! ### The registry -/

/-- The command descriptions registered so far, in order. -/
structure Registry where
  commands : List Command

namespace Registry

/-- The registry without commands. -/
def empty : Registry := ⟨[]⟩

/-- The registry with one more command. -/
def register (registry : Registry) (command : Command) : Registry :=
  ⟨registry.commands ++ [command]⟩

/-- The root of new nodes, numbered from the given number on; all wrappers lead to commands. -/
def build (registry : Registry) (next : Nat) : Except BuildError (Numbered Root) :=
  match h : Command.buildAll registry.commands next with
  | .error e => .error (.argument e)
  | .ok built =>
    let root : Root := ⟨built.value, Command.isCommand_of_buildAll h⟩
    match root.checkWrappers with
    | .error e => .error e
    | .ok _ => .ok ⟨root, built.next⟩

end Registry

end CommandGrammar
