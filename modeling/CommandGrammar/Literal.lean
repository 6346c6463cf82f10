import CommandGrammar.Literal.Reader

/-!
Literals: values written as expressions, such as numbers, texts in quotes, and tuples, sets and
dictionaries of them.
-/

namespace CommandGrammar.Literal

/-- Why a text is no literal: it is no expression, or one without a value. -/
inductive Problem where
  | form (e : Error)
  | value (e : ValueError)
deriving DecidableEq, Repr

/-- Checks that a text is a literal. -/
def check (text : String) : Except Problem Unit := do
  let form ← (readText (text.length + 1) text).mapError .form
  let _ ← form.value.mapError .value

end CommandGrammar.Literal
