import CommandGrammar.Value

/-!
Renaming procedures of the host, at once or through a decorator that does so later, and the names of
read-only properties.
-/

namespace CommandGrammar

/-- Why a renaming is refused. -/
inductive RenameError where
  | notCallable
  | notAName
  /-- The host keeps the procedure from being renamed. -/
  | sealed
  | decoratorName
  /-- A decorator is applied to something else than a procedure. -/
  | decorated
  | argumentCount (count : Nat)
  | propertyName
deriving DecidableEq, Repr

namespace RenameError

/-- Why it is refused, in words. -/
def message : RenameError → String
  | notCallable => "rename() first argument must be callable"
  | notAName => "rename() second argument must be a string"
  | sealed => "rename() first argument must be a updatable callable"
  | decoratorName => "@rename() argument must be a string"
  | decorated => "@rename() must be applied to a callable"
  | argumentCount count =>
    "rename takes 1 to 2 arguments but " ++ toString count ++ " were given"
  | propertyName => "mirror() argument must be a string"

end RenameError

namespace Callable

/-- The procedure under another name. -/
def rename (callable : Callable) (name : String) : Except RenameError Callable :=
  if callable.isSealed then .error .sealed
  else .ok { callable with name, qualifiedName := name }

/-- The name of decorators that rename. -/
def decoratorName : String := "rename"

/-- The name of the decorator that registers a command. -/
def registrarName : String := "command"

end Callable

/-- What a renaming gives: a renamed procedure, or a decorator that gives the name. -/
inductive Renaming where
  | renamed (callable : Callable)
  | decorator (name : String)
deriving DecidableEq, Repr

namespace Renaming

/-- Renames a procedure, or asks for one, depending on the number of arguments. -/
def ofArguments : List Value → Except RenameError Renaming
  | [callable, name] =>
    match callable.callable?, name.text? with
    | none, _ => .error .notCallable
    | some _, none => .error .notAName
    | some callable, some name => (callable.rename name).map renamed
  | [name] =>
    match name.text? with
    | some name => .ok (decorator name)
    | none => .error .decoratorName
  | arguments => .error (.argumentCount arguments.length)

/-- The name that the result shows. -/
def shownName : Renaming → String
  | renamed callable => callable.name
  | decorator _ => Callable.decoratorName

/-- The qualified name that the result shows. -/
def shownQualifiedName : Renaming → String
  | renamed callable => callable.qualifiedName
  | decorator _ => Callable.decoratorName

/-- Applies a decorator to a value. -/
def decorate (name : String) (value : Value) : Except RenameError Callable :=
  match value.callable? with
  | some callable => callable.rename name
  | none => .error .decorated

end Renaming

/-- The name of the reader behind a read-only property. -/
def propertyReader (name : Value) : Except RenameError String :=
  match name.text? with
  | some name => .ok name
  | none => .error .propertyName

end CommandGrammar
