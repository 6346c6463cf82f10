import CommandGrammar.Entries
import CommandGrammar.Node

/-!
Bindings: what the parameters of one line are bound to, in the order in which they were first
matched. A repeatable parameter gathers its items in order; any other keeps its last one.
-/

namespace CommandGrammar

/-- What one match of a parameter gives it: its presence alone, or a word. -/
inductive Item where
  | present
  | word (s : String)
deriving DecidableEq, Repr

/-- What a parameter is bound to. -/
inductive Binding where
  | single (item : Item)
  | several (items : List Item)
deriving DecidableEq, Repr

namespace Binding

/-- The items bound, in order. -/
def items : Binding → List Item
  | single item => [item]
  | several items => items

/-- The binding of a parameter by its first match. -/
def first (parameter : Node) (item : Item) : Binding :=
  if parameter.isRepeatable then .several [item] else .single item

/-- The binding of a parameter by one more match. -/
def again (parameter : Node) (binding : Binding) (item : Item) : Binding :=
  if parameter.isRepeatable then .several (binding.items ++ [item]) else .single item

end Binding

/-- Bindings by parameter, in the order of first matches. -/
abbrev Bindings := List (Node × Binding)

namespace Bindings

/-- The binding of a parameter. -/
def get? (bindings : Bindings) (parameter : Node) : Option Binding := bindings.lookup parameter

/-- The parameter is bound. -/
def binds (bindings : Bindings) (parameter : Node) : Bool :=
  bindings.any fun (n, _) => n == parameter

/-- The bindings after the parameter was matched once more. -/
def bind (parameter : Node) (item : Item) : Bindings → Bindings
  | [] => [(parameter, Binding.first parameter item)]
  | (n, b) :: rest =>
    if n = parameter then (n, b.again parameter item) :: rest else (n, b) :: bind parameter item rest

end Bindings

/-- Bindings by name, as handlers get them. -/
abbrev Namespace := Entries Binding

/-- The bindings with each parameter called by its name. -/
def Bindings.byName (bindings : Bindings) : Namespace := bindings.map fun (n, b) => (n.name, b)

end CommandGrammar
