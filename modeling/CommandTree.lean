import CommandTree.Absence
import CommandTree.Attribute
import CommandTree.Bindings
import CommandTree.Command
import CommandTree.Condition
import CommandTree.Context
import CommandTree.Error
import CommandTree.Event
import CommandTree.Example.Teleport
import CommandTree.Fault
import CommandTree.Fault.Kind
import CommandTree.Fault.Raising
import CommandTree.Fault.Rendering
import CommandTree.Handed
import CommandTree.Handler
import CommandTree.Host
import CommandTree.Naming
import CommandTree.Node
import CommandTree.Node.Usages
import CommandTree.Number.Binary64
import CommandTree.Number.Decimal
import CommandTree.Number.Numeral
import CommandTree.Outcome
import CommandTree.Proofs.Agreement
import CommandTree.Proofs.Appearance
import CommandTree.Proofs.Attaching
import CommandTree.Proofs.Choosing
import CommandTree.Proofs.Completion
import CommandTree.Proofs.Conclusion
import CommandTree.Proofs.Consumption
import CommandTree.Proofs.Drafting
import CommandTree.Proofs.Exhaustion
import CommandTree.Proofs.Gathering
import CommandTree.Proofs.Growth
import CommandTree.Proofs.Hints
import CommandTree.Proofs.Layout
import CommandTree.Proofs.Lifecycle
import CommandTree.Proofs.Listing
import CommandTree.Proofs.Lockstep
import CommandTree.Proofs.Magnitude
import CommandTree.Proofs.Narrowing
import CommandTree.Proofs.Numerals
import CommandTree.Proofs.Observers
import CommandTree.Proofs.Offering
import CommandTree.Proofs.Overriding
import CommandTree.Proofs.Permissions
import CommandTree.Proofs.Positions
import CommandTree.Proofs.Printing
import CommandTree.Proofs.Quotation
import CommandTree.Proofs.Recasting
import CommandTree.Proofs.Registrations
import CommandTree.Proofs.Reporting
import CommandTree.Proofs.Restoration
import CommandTree.Proofs.Retyping
import CommandTree.Proofs.Rounding
import CommandTree.Proofs.Route
import CommandTree.Proofs.Routing
import CommandTree.Proofs.Safety
import CommandTree.Proofs.Selection
import CommandTree.Proofs.Spelling
import CommandTree.Proofs.Splitting
import CommandTree.Proofs.Substitution
import CommandTree.Proofs.Trail
import CommandTree.Proofs.Unfolding
import CommandTree.Proofs.Verdicts
import CommandTree.Proofs.Wordings
import CommandTree.Registry
import CommandTree.Rehearsal
import CommandTree.Release
import CommandTree.Reply
import CommandTree.Requirement
import CommandTree.Run
import CommandTree.Selection
import CommandTree.Sender
import CommandTree.Sender.Console
import CommandTree.Styled
import CommandTree.Template
import CommandTree.Text.Blank
import CommandTree.Text.Case
import CommandTree.Text.CaseTable
import CommandTree.Text.Line
import CommandTree.Text.Matching
import CommandTree.Text.PrintableTable
import CommandTree.Text.Quoted
import CommandTree.Text.Ranges
import CommandTree.TokenType
import CommandTree.TokenType.Attempt
import CommandTree.TokenType.Choice
import CommandTree.TokenType.Decimal
import CommandTree.TokenType.Integer
import CommandTree.TokenType.Literal
import CommandTree.TokenType.Phrase
import CommandTree.Value
import CommandTree.Value.Compare
import CommandTree.Value.Result
import CommandTree.Value.Shown
import CommandTree.Walk
import CommandTree.Workshop
