import CommandGrammar.Argument

/-!
Building the nodes of descriptions. Each node takes the next free number, so that no two nodes built
from one supply of numbers are the same, though they come from one description. A command's
parameter nodes are both its parameters and the first of its successors.
-/

namespace CommandGrammar

/-- A result beside the next free number. -/
structure Numbered (α : Type) where
  value : α
  next : Nat

namespace Parameter

/-- The parameter's node with the number. -/
def build (p : Parameter) (number : Nat) : Node :=
  .mk {
    number
    name := p.name
    help := p.help
    isHidden := p.isHidden
    priority := p.priority.getD (priorityOfKind (some p.kind))
    role := .parameter {
      kind := some p.kind, aliases := p.aliases, repeatable := p.isRepeatable
      required := p.isRequired } } [] []

/-- The nodes of parameters, numbered from the given number on. -/
def buildAll (number : Nat) : List Parameter → List Node
  | [] => []
  | p :: ps => p.build number :: buildAll (number + 1) ps

end Parameter

namespace Command

/-- The part of a command in the grammar; the words of a wrapper's path are checked here. -/
def roleOf (signature : Signature) : Except ArgumentError Role :=
  match signature.wraps with
  | none => .ok (.command signature.handler)
  | some path =>
    match path.mapM (checkWord .wrapped) with
    | .ok path => .ok (.wrapper path)
    | .error flaw => .error ⟨"wrapper-node", flaw⟩

mutual
/-- The command's node, numbered after those that it holds. -/
def build : Command → Nat → Except ArgumentError (Numbered Node)
  | .mk signature parameters commands, next =>
    let declared := Parameter.buildAll next parameters
    match buildAll commands (next + parameters.length) with
    | .error e => .error e
    | .ok nested =>
      match roleOf signature with
      | .error e => .error e
      | .ok role =>
        .ok {
          value := .mk {
            number := nested.next, name := signature.name, help := signature.help
            isHidden := signature.isHidden, priority := signature.priority, role
          } declared (declared ++ nested.value)
          next := nested.next + 1 }
/-- The nodes of commands, in order. -/
def buildAll : List Command → Nat → Except ArgumentError (Numbered (List Node))
  | [], next => .ok ⟨[], next⟩
  | c :: cs, next =>
    match build c next with
    | .error e => .error e
    | .ok first =>
      match buildAll cs first.next with
      | .error e => .error e
      | .ok rest => .ok ⟨first.value :: rest.value, rest.next⟩
end

end Command

/-! ### Built nodes are commands -/

theorem Command.isCommand_of_build {c : Command} {next : Nat} {built : Numbered Node}
    (h : c.build next = .ok built) : built.value.isCommand = true := by
  obtain ⟨signature, parameters, commands⟩ := c
  rw [Command.build] at h
  split at h
  · cases h
  · split at h
    · cases h
    · next role hrole =>
      cases h
      rw [Command.roleOf] at hrole
      split at hrole
      · cases hrole
        rfl
      · split at hrole
        · cases hrole
          rfl
        · cases hrole

theorem Command.isCommand_of_buildAll {cs : List Command} {next : Nat}
    {built : Numbered (List Node)} (h : Command.buildAll cs next = .ok built) :
    ∀ n ∈ built.value, n.isCommand = true := by
  induction cs generalizing next built with
  | nil =>
    cases h
    simp
  | cons c cs ih =>
    rw [Command.buildAll] at h
    split at h
    · cases h
    · next first hfirst =>
      split at h
      · cases h
      · next rest hrest =>
        cases h
        intro n hn
        rcases List.mem_cons.1 hn with rfl | hn
        · exact Command.isCommand_of_build hfirst
        · exact ih hrest n hn

end CommandGrammar
