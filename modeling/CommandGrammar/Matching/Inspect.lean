import CommandGrammar.Matching.State
import CommandGrammar.Value

/-!
Bindings as values, and the written form of a state. While a line is matched a repeatable parameter
holds a list; a handler gets a tuple.
-/

namespace CommandGrammar

namespace Item

/-- The item as a value: presence is true. -/
def value : Item → Value
  | present => .truth true
  | word s => .text s

end Item

namespace Binding

/-- The binding as a value that may still grow. -/
def value : Binding → Value
  | single item => item.value
  | several items => .list (items.map Item.value)

/-- The binding as a handler gets it. -/
def frozen (binding : Binding) : Value := binding.value.frozen

end Binding

namespace Namespace

/-- The bindings as a handler gets them. -/
def frozen (names : Namespace) : Entries Value := names.map fun (name, b) => (name, b.frozen)

end Namespace

namespace State

variable (s : State)

/-- The name of the type of states. -/
def typeName : String := "parse-state"

/-- The written form of the bindings. -/
def inspectBindings : String :=
  Inspect.dictionary (s.bindings.map fun (n, b) => (n.inspect, b.value.inspect))

/-- The written form of a state. -/
def inspect : String :=
  Inspect.object typeName [
    ("command", (s.command.map Node.inspect).getD Inspect.absent),
    ("bindings", s.inspectBindings),
    ("tokens", Inspect.list (s.tokens.map Text.quoted))]

end State

end CommandGrammar
