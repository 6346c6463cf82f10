import CommandGrammar.Grammar
import CommandGrammar.Shell

/-!
A small grammar to try a shell with: one command shows a part of the grammar, one sets a level, and a
hidden short form stands for the first.
-/

namespace CommandGrammar.Demo

/-! ### The grammar -/

/-- The handler of the command that shows. -/
def showHandler : Handler := 0

/-- The handler of the command that sets. -/
def setHandler : Handler := 1

/-- A visible positional parameter. -/
def target : Parameter where
  name := "target"
  kind := .simple
  aliases := []
  help := "what to show"
  isRequired := true
  isRepeatable := false
  priority := none
  isHidden := false

/-- The command that shows a part of the grammar. -/
def showCommand : Command :=
  .mk {
    name := "show", help := "show a part of the demo grammar", handler := showHandler
    wraps := none, priority := defaultPriority, isHidden := false }
    [{ name := "--verbose", kind := .flag, aliases := ["-v"], help := "include node details"
       isRequired := false, isRepeatable := false, priority := none, isHidden := false },
      target] []

/-- The command that sets the level. -/
def setCommand : Command :=
  .mk {
    name := "set", help := "set the demo level", handler := setHandler
    wraps := none, priority := defaultPriority, isHidden := false }
    [{ name := "--level", kind := .named, aliases := ["-l"], help := "level to set"
       isRequired := true, isRepeatable := false, priority := none, isHidden := false },
      { name := "--tag", kind := .named, aliases := ["-t"], help := "tag to attach"
        isRequired := false, isRepeatable := true, priority := none, isHidden := false },
      { name := "--debug", kind := .flag, aliases := [], help := none
        isRequired := false, isRepeatable := false, priority := none, isHidden := true }] []

/-- The short form of the command that shows. -/
def shortCommand : Command :=
  .mk {
    name := "sh", help := "short form of 'show'", handler := none
    wraps := some ["show"], priority := defaultPriority, isHidden := true }
    [target] []

/-- The commands. -/
def registry : Registry := ⟨[showCommand, setCommand, shortCommand]⟩

/-- The grammar, its nodes numbered from zero. -/
def grammar : Except FinishError Grammar := registry.finish false 0

/-- The root of the grammar. -/
def root : Except BuildError Root := (registry.build 0).map Numbered.value

/-! ### The handlers -/

/-- A handler that wrote lines. -/
def wrote (text : String) : Reply := ⟨text ++ "\n", .ok .null⟩

/-- A handler that misses a binding. -/
def missing (name : String) : Reply := ⟨"", .error (.raised ⟨"KeyError", Text.quoted name, false⟩)⟩

/-- The texts that a name is given. -/
def textsOf (given : Entries Value) (name : String) : List String :=
  ((given.getD name (.tuple [])).elements?.getD []).filterMap Value.text?

/-- Shows the part of the grammar that is named: its tree, or the bindings of the line itself. -/
def showPart (given : Entries Value) : Reply :=
  match given.get? "target" with
  | none => missing "target"
  | some (.text "tree") =>
    match root with
    | .ok root => wrote (String.intercalate "\n" (root.successors.map Node.inspect))
    | .error e => wrote e.message
  | some (.text "bindings") => wrote (Value.dictionary given).inspect
  | some target => wrote ("nothing to show for " ++ target.inspect)

/-- Sets the level, with its tags. -/
def setLevel (given : Entries Value) : Reply :=
  match given.get? "--level" with
  | none => missing "--level"
  | some level =>
    wrote (String.intercalate " "
      (("level set to " ++ level.display) :: (textsOf given "--tag").map ("#" ++ ·)))

/-- Calls the handlers. -/
def host : Host := fun handler given =>
  if handler = showHandler then showPart given else setLevel given

end CommandGrammar.Demo
