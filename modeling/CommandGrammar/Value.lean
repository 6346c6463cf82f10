import CommandGrammar.Code
import CommandGrammar.Inspect
import CommandGrammar.Text.Decimal

/-!
Values: what a host may pass where a grammar expects something, what a handler may return, and what
a fault carries with it. Whether a value fits is found out where it is used.
-/

namespace CommandGrammar

/-- A procedure of the host, with the names that it shows. -/
structure Callable where
  handler : Handler
  name : String
  qualifiedName : String
  /-- Whether the host keeps it from being renamed. -/
  isSealed : Bool
deriving DecidableEq, Repr

/-- A value of the host. -/
inductive Value where
  /-- What stands for an argument that was not given. -/
  | unset
  | null
  | truth (b : Bool)
  | integer (i : Int)
  | float (x : Float)
  | text (s : String)
  | list (items : List Value)
  | tuple (items : List Value)
  | dictionary (entries : List (String × Value))
  /-- A dictionary that cannot be changed. -/
  | mapping (entries : List (String × Value))
  | set (items : List Value)
  /-- A set that cannot be changed. -/
  | frozenSet (items : List Value)
  | code (code : Code)
  | node (node : Node)
  | root (root : Root)
  | parameter (parameter : Parameter)
  | command (command : Command)
  | callable (callable : Callable)

instance : Inhabited Value := ⟨.null⟩

namespace Value

/-! ### Shapes -/

/-- The name of the value's type. -/
def typeName : Value → String
  | unset => "UnsetType"
  | null => "NoneType"
  | truth _ => "bool"
  | integer _ => "int"
  | float _ => "float"
  | text _ => "str"
  | list _ => "list"
  | tuple _ => "tuple"
  | dictionary _ => "dict"
  | mapping _ => "mappingproxy"
  | set _ => "set"
  | frozenSet _ => "frozenset"
  | code _ => "FaultCode"
  | node _ => "Node"
  | root _ => "RootNode"
  | parameter _ => "Parameter"
  | command _ => "Command"
  | callable _ => "function"

/-- The value counts as true in a condition. -/
def isTruthy : Value → Bool
  | unset | null => false
  | truth b => b
  | integer i => i != 0
  | float x => x != 0
  | text s => !s.isEmpty
  | list items | tuple items | set items | frozenSet items => !items.isEmpty
  | dictionary entries | mapping entries => !entries.isEmpty
  | code _ | node _ | root _ | parameter _ | command _ | callable _ => true

/-- The elements of a value that can be gone through: a dictionary's are its keys, a text's its
characters. -/
def elements? : Value → Option (List Value)
  | text s => some (s.toList.map fun c => text c.toString)
  | list items | tuple items | set items | frozenSet items => some items
  | dictionary entries | mapping entries => some (entries.map fun (key, _) => text key)
  | unset | null | truth _ | integer _ | float _ | code _ | node _ | root _ | parameter _
  | command _ | callable _ => none

/-- The elements of a value that can be gone through and is not a text. -/
def collection? : Value → Option (List Value)
  | text _ => none
  | value => value.elements?

/-- The elements of a list or tuple. -/
def sequence? : Value → Option (List Value)
  | list items | tuple items => some items
  | _ => none

/-- The text that the value is. -/
def text? : Value → Option String
  | text s => some s
  | _ => none

/-- The truth value that the value is. -/
def truth? : Value → Option Bool
  | truth b => some b
  | _ => none

/-- The integer that the value is; truth values are not integers here. -/
def integer? : Value → Option Int
  | integer i => some i
  | _ => none

/-- The node that the value is. -/
def node? : Value → Option Node
  | node n => some n
  | _ => none

/-- The root that the value is. -/
def root? : Value → Option Root
  | root r => some r
  | _ => none

/-- The procedure that the value is. -/
def callable? : Value → Option Callable
  | callable c => some c
  | _ => none

mutual
/-- The name of the type that keeps the value out of sets, if one does. -/
def unhashable? : Value → Option String
  | list _ => some "list"
  | dictionary _ => some "dict"
  | mapping _ => some "mappingproxy"
  | set _ => some "set"
  | tuple items => unhashableAmong? items
  | _ => none
/-- The same for the first of several values that is kept out. -/
def unhashableAmong? : List Value → Option String
  | [] => none
  | v :: vs =>
    match unhashable? v with
    | some name => some name
    | none => unhashableAmong? vs
end

/-! ### Defaults and freezing -/

/-- The value, or the default where it was not given. -/
def orDefault (value default : Value) : Value :=
  match value with
  | unset => default
  | value => value

/-- The value that cannot be changed itself, though what it holds may: lists become tuples. -/
def frozen : Value → Value
  | list items => tuple items
  | dictionary entries => mapping entries
  | set items => frozenSet items
  | value => value

/-! ### Written forms -/

mutual
/-- The written form of a value. -/
def inspect : Value → String
  | unset => Inspect.unset
  | null => Inspect.absent
  | truth b => Inspect.truth b
  | integer i => toString i
  | float x => Text.decimal x
  | text s => Text.quoted s
  | list items => Inspect.list (inspectAll items)
  | tuple items => Inspect.tuple (inspectAll items)
  | dictionary entries => Inspect.dictionary (inspectEntries entries)
  | mapping entries => "mappingproxy(" ++ Inspect.dictionary (inspectEntries entries) ++ ")"
  | set [] => "set()"
  | set (item :: items) => "\x7b" ++ Inspect.commaSeparated (inspectAll (item :: items)) ++ "\x7d"
  | frozenSet [] => "frozenset()"
  | frozenSet (item :: items) =>
    "frozenset(\x7b" ++ Inspect.commaSeparated (inspectAll (item :: items)) ++ "\x7d)"
  | code c => "<FaultCode." ++ c.name ++ ": " ++ toString c.number ++ ">"
  | node n => n.inspect
  | root r => r.inspect
  | parameter p => p.inspect
  | command c => c.inspect
  | callable c => "<function " ++ c.qualifiedName ++ ">"
/-- The written forms of values. -/
def inspectAll : List Value → List String
  | [] => []
  | v :: vs => inspect v :: inspectAll vs
/-- The written forms of a dictionary's entries. -/
def inspectEntries : List (String × Value) → List (String × String)
  | [] => []
  | (key, v) :: rest => (Text.quoted key, inspect v) :: inspectEntries rest
end

/-- The value as running text: a text is itself, and a code its number. -/
def display : Value → String
  | text s => s
  | code c => toString c.number
  | value => value.inspect

/-! ### Sets -/

/-- The integer that the value equals in a set, where truth values are one and zero. -/
def whole? : Value → Option Int
  | truth b => some (if b then 1 else 0)
  | integer i => some i
  | float x => Text.wholeOf? x
  | _ => none

mutual
/-- The values are equal elements of a set: numbers by what they are, tuples by their elements. -/
def isSameElement : Value → Value → Bool
  | tuple as, tuple bs => areSameElements as bs
  | a, b =>
    match a.whole?, b.whole? with
    | some i, some j => i == j
    | none, none => a.typeName == b.typeName && a.inspect == b.inspect
    | _, _ => false
/-- The same, one after another, for as many values. -/
def areSameElements : List Value → List Value → Bool
  | [], [] => true
  | a :: as, b :: bs => isSameElement a b && areSameElements as bs
  | _, _ => false
end

/-- The set of values, in the order in which they first occur. -/
def setOf (values : List Value) : Value :=
  set (values.foldl
    (fun seen value => if seen.any value.isSameElement then seen else seen ++ [value]) [])

end Value

end CommandGrammar
