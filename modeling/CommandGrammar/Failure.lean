import CommandGrammar.Fault.Cause
import CommandGrammar.Fault.Display
import CommandGrammar.Matching.Dispatch

/-!
Failures: why a call gives no result. A fault is for the user of a command line; the other failures
are for whoever wrote the grammar, the handlers or the calls.
-/

namespace CommandGrammar

/-- What works on the root of a grammar. -/
inductive RootOwner where
  | state
  | parser
  | shell
deriving DecidableEq, Repr

namespace RootOwner

/-- The owner's name. -/
def name : RootOwner → String
  | state => "parse-state"
  | parser => "parser"
  | shell => "shell"

end RootOwner

/-- What is done with a state once a line is matched. -/
inductive Stage where
  | verify
  | execute
deriving DecidableEq, Repr

namespace Stage

/-- The stage's name. -/
def name : Stage → String
  | verify => "verify"
  | execute => "execute"

end Stage

/-- What a shell is given besides the root. -/
inductive ShellSetting where
  | prompt
  | console
  | fancy
  | colorful
  | history
  | program
deriving DecidableEq, Repr

namespace ShellSetting

/-- The setting's name. -/
def name : ShellSetting → String
  | prompt => "prompt"
  | console => "console"
  | fancy => "fancy"
  | colorful => "colorful"
  | history => "history"
  | program => "prog"

/-- What the setting has to be. -/
def phrase : ShellSetting → String
  | prompt | program => "a string"
  | console => "a rich console"
  | fancy | colorful => "a boolean"
  | history => "a path"

end ShellSetting

/-- A call that is refused. -/
inductive Misuse where
  /-- What should be tokens is no collection of texts. -/
  | notTokens
  | notARoot (owner : RootOwner)
  | notAState (stage : Stage)
  /-- No line was matched before. -/
  | nothingMatched (stage : Stage)
  /-- The grammar has a parameter of no kind. -/
  | kindlessParameter
  | notALine
  | notAPhrase
  /-- A value of a type that cannot be a key is asked for by key. -/
  | unhashable (typeName : String)
  | notAFault
  | setting (setting : ShellSetting)
  | notAPath (typeName : String)
  /-- A step of a path, counted from zero, is no name. -/
  | notAStep (index : Nat) (typeName : String)
  /-- What belongs to a grammar is never changed. -/
  | immutable (typeName : String)
  /-- A type that has no subtypes. -/
  | sealedType (typeName : String)
deriving DecidableEq, Repr

namespace Misuse

/-- Why the call is refused, in words. -/
def message : Misuse → String
  | notTokens => "parse() argument must be an iterable of strings"
  | notARoot owner => owner.name ++ " 'root' must be a root node"
  | notAState stage => stage.name ++ "() argument must be a parse state"
  | nothingMatched stage => stage.name ++ "() requires a successful parse()"
  | kindlessParameter => "unreachable"
  | notALine => "tokenize() argument must be a string"
  | notAPhrase => "pluralize() argument must be a string"
  | unhashable typeName => "unhashable type: '" ++ typeName ++ "'"
  | notAFault => "trigger() argument must have a __trigger__ and __replace__ methods"
  | setting s => "shell '" ++ s.name ++ "' must be " ++ s.phrase
  | notAPath typeName => "'" ++ typeName ++ "' object is not iterable"
  | notAStep index typeName =>
    "sequence item " ++ toString index ++ ": expected str instance, " ++ typeName ++ " found"
  | immutable typeName => typeName ++ " is immutable"
  | sealedType typeName => "type '" ++ typeName ++ "' is not an acceptable base type"

end Misuse

namespace PathError

/-- Why the path leads to no command, in words. -/
def message : PathError → String
  | empty => "empty command path"
  | unknown path => "unknown command path " ++ Text.quoted (String.intercalate " " path)

end PathError

/-- What a handler raises besides faults: an error of a kind that the host knows, or an interruption,
which no loop over lines outlives. -/
structure Raised where
  kind : String
  message : String
  isInterruption : Bool := false
deriving DecidableEq, Repr

/-- Why a call gives no result. -/
inductive Failure where
  | misuse (misuse : Misuse)
  | fault (fault : Fault)
  | path (e : PathError)
  | chain (e : ChainError)
  | display (e : DisplayError)
  | raised (raised : Raised)

namespace Failure

/-- Why there is no result, in words. -/
def message : Failure → String
  | misuse m => m.message
  | fault f => f.text
  | path e => e.message
  | chain e => e.message
  | display e => e.message
  | raised r => r.message

/-- The fault that the failure is. -/
def fault? : Failure → Option Fault
  | fault f => some f
  | _ => none

/-- The failure is an interruption. -/
def isInterruption : Failure → Bool
  | raised r => r.isInterruption
  | misuse _ | fault _ | path _ | chain _ | display _ => false

end Failure

namespace MatchError

/-- The failure of matching a line. -/
def failure (e : MatchError) : Failure :=
  match e.fault? with
  | some fault => .fault fault
  | none => .misuse .kindlessParameter

end MatchError

end CommandGrammar
