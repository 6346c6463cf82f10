import CommandGrammar.Literal.Error

/-!
Forms: what an expression is, as far as it matters whether it is a literal. Numbers, texts and the
words for constants are literals, and so are tuples, sets and dictionaries of literals.
-/

namespace CommandGrammar.Literal

/-- What an expression is. -/
inductive Form where
  | name (s : String)
  /-- A word or a mark that stands for a value. -/
  | constant (s : String)
  | number (isImaginary : Bool)
  | text (isFormatted : Bool)
  | tuple (items : List Form)
  | set (items : List Form)
  /-- Entries; one without a key takes over those of another dictionary. -/
  | dictionary (entries : List (Option Form × Form))
  /-- A sign before an operand. -/
  | signed (operand : Form)
  /-- The sum or the difference of operands. -/
  | sum (left right : Form)
  /-- Any other operation of arithmetic. -/
  | operation
  /-- A comparison; whether it asks for an element of something is told by its first word. -/
  | comparison (left : Form) (isMembership : Bool)
  | logic
  | conditional
  | function
  | call (called : Form) (hasArguments : Bool)
  | member
  | awaited
  | yielded
  | generator
  | setOf
  | dictionaryOf
  | starred (form : Form)
  | binding

namespace Form

/-- What the form is called where it cannot be assigned to. -/
def description : Form → String
  | name _ => "name"
  | constant "..." => "ellipsis"
  | constant s => s
  | number _ | text false => "literal"
  | text true => "f-string expression"
  | tuple _ => "tuple"
  | set _ => "set display"
  | dictionary _ => "dict literal"
  | signed _ | sum .. | operation | logic => "expression"
  | comparison .. => "comparison"
  | conditional => "conditional expression"
  | function => "lambda"
  | call .. => "function call"
  | member => "attribute"
  | awaited => "await expression"
  | yielded => "yield expression"
  | generator => "generator expression"
  | setOf => "set comprehension"
  | dictionaryOf => "dict comprehension"
  | starred _ => "starred"
  | binding => "named expression"

/-- The form is made by arithmetic or stands closer together. -/
def isArithmetic : Form → Bool
  | comparison .. | logic | conditional | function | yielded | starred _ | binding => false
  | _ => true

/-! ### Targets -/

mutual
/-- The part of the form that nothing can be assigned to, where the form stands for the targets of a
comprehension. -/
def unassignable? : Form → Option Form
  | tuple items => unassignableAmong? items
  | starred form => unassignable? form
  | comparison left isMembership => if isMembership then unassignable? left else none
  | name _ | member => none
  | form => some form
/-- The same for the first of several forms that has such a part. -/
def unassignableAmong? : List Form → Option Form
  | [] => none
  | form :: forms => unassignable? form <|> unassignableAmong? forms
end

/-! ### Values -/

/-- The form is a number, imaginary or not. -/
def number? : Form → Option Bool
  | number isImaginary => some isImaginary
  | _ => none

/-- The form is a number, perhaps after a sign. -/
def signedNumber? : Form → Option Bool
  | signed form => form.number?
  | form => form.number?

mutual
/-- The type of what keeps the form's value out of sets, if something does. -/
def value : Form → Except ValueError (Option String)
  | constant _ | number _ | text false => .ok none
  | tuple items => values items
  | set items => do
    elements items
    return some "set"
  | dictionary entries => do
    pairs entries
    return some "dict"
  | signed form => if form.number?.isSome then .ok none else .error .computed
  | sum left right =>
    if left.signedNumber? == some false && right.number? == some true then .ok none
    else .error .computed
  | call (.name "set") false => .ok (some "set")
  | _ => .error .computed
/-- The same for the first of a tuple's items that keeps it out. -/
def values : List Form → Except ValueError (Option String)
  | [] => .ok none
  | item :: items => do
    let first ← value item
    let rest ← values items
    return first <|> rest
/-- Checks the elements of a set. -/
def elements : List Form → Except ValueError Unit
  | [] => .ok ()
  | item :: items => do
    if let some typeName ← value item then throw (.unhashable typeName)
    elements items
/-- Checks the entries of a dictionary. -/
def pairs : List (Option Form × Form) → Except ValueError Unit
  | [] => .ok ()
  | (none, _) :: _ => .error .spread
  | (some key, item) :: rest => do
    let kept ← value key
    let _ ← value item
    if let some typeName := kept then throw (.unhashable typeName)
    pairs rest
end

end Form

end CommandGrammar.Literal
