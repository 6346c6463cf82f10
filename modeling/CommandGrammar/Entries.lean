/-!
Entries: values by name, each name once, in the order in which the names were first set. Setting a
name again changes its value and keeps its place.
-/

namespace CommandGrammar

/-- Values by name. -/
abbrev Entries (α : Type) := List (String × α)

namespace Entries

variable {α : Type}

/-- The value of a name. -/
def get? (entries : Entries α) (name : String) : Option α := entries.lookup name

/-- The value of a name, or the default. -/
def getD (entries : Entries α) (name : String) (default : α) : α := (entries.get? name).getD default

/-- Sets a name's value. -/
def set (name : String) (a : α) : Entries α → Entries α
  | [] => [(name, a)]
  | (n, b) :: rest => if n = name then (n, a) :: rest else (n, b) :: set name a rest

/-- Sets names one after another. -/
def setAll (entries others : Entries α) : Entries α :=
  others.foldl (fun entries (name, a) => entries.set name a) entries

end Entries

end CommandGrammar
