import CommandGrammar.Fault.Cause
import CommandGrammar.Matching.Journal

/-!
Finished grammars: a root built from all that is registered, with the warnings about it. Where
warnings count as errors the first of them keeps the grammar from being finished.
-/

namespace CommandGrammar

/-- A finished grammar. -/
structure Grammar where
  root : Root
  /-- What is doubtful about it, in the order in which it was found. -/
  warnings : List Fault
  /-- What was noted on finishing it. -/
  notes : List Note

/-- Why a grammar cannot be finished. -/
inductive FinishError where
  | build (e : BuildError)
  /-- A warning that counts as an error. -/
  | warning (fault : Fault)

namespace Registry

/-- Finishes the grammar of what is registered, its nodes numbered from the given number on; the
registry itself does not change. -/
def finish (registry : Registry) (isStrict : Bool) (next : Nat) : Except FinishError Grammar :=
  match registry.build next with
  | .error e => .error (.build e)
  | .ok built =>
    let root := built.value
    match isStrict, root.warnings with
    | true, warning :: _ => .error (.warning warning)
    | _, warnings => .ok ⟨root, warnings, [.built root.successors.length]⟩

end Registry

end CommandGrammar
