import CommandGrammar.Callable
import CommandGrammar.Grammar
import CommandGrammar.Main
import CommandGrammar.Fault.Cause
import CommandGrammar.Wording
import CommandGrammar.Text.Quoted
import CommandGrammar.Text.Decimal
import CommandGrammar.Text.Similarity
import CommandGrammar.Line
import CommandGrammar.Root
import CommandGrammar.Node.Draft
import CommandGrammar.Registry
import CommandGrammar.Matching.Verify
import CommandGrammar.Matching.Dispatch
import CommandGrammar.Matching.Completion
import CommandGrammar.Proofs.Binding
import CommandGrammar.Proofs.Continuation
import CommandGrammar.Proofs.Accounting
import CommandGrammar.Proofs.Frontier
import CommandGrammar.Proofs.Invocation
import CommandGrammar.Proofs.Completion
import CommandGrammar.Proofs.Paths
import CommandGrammar.Proofs.Wrappers
import CommandGrammar.Proofs.Descriptions
import CommandGrammar.Proofs.Ambiguity
import CommandGrammar.Proofs.TypedPaths
import CommandGrammar.Proofs.Listing
import CommandGrammar.Proofs.Image
import CommandGrammar.Proofs.Rearrangement
import CommandGrammar.Proofs.Visibility
import CommandGrammar.Proofs.Expansion
import CommandGrammar.Proofs.Displays
import CommandGrammar.Proofs.Layout
import CommandGrammar.Proofs.Lines
import CommandGrammar.Proofs.Spelling
import CommandGrammar.Proofs.Retention
import CommandGrammar.Proofs.Scope
import CommandGrammar.Proofs.Requirements
import CommandGrammar.Proofs.Construction
import CommandGrammar.Proofs.Requests
import CommandGrammar.Proofs.Correspondence
import CommandGrammar.Proofs.Styling
import CommandGrammar.Proofs.Choice
import CommandGrammar.Proofs.Faults
import CommandGrammar.Proofs.Steps
import CommandGrammar.Proofs.Registrations
import CommandGrammar.Proofs.Positionals
import CommandGrammar.Proofs.Cursor
import CommandGrammar.Proofs.Distinctness
import CommandGrammar.Proofs.Lookup
import CommandGrammar.Proofs.Suggestions
import CommandGrammar.Proofs.Reading
