import FirstMatch.Text.Hidden
import FirstMatch.Text.Quoted
import FirstMatch.Text.Layout
import FirstMatch.Decimal.Double
import FirstMatch.Decimal.Shortest
import FirstMatch.Decimal.Notation
import FirstMatch.Decimal.Literal
import FirstMatch.Decimal.Stepwise
import FirstMatch.Json.Fault
import FirstMatch.Json.Token
import FirstMatch.Json.Number
import FirstMatch.Json.Misfit
import FirstMatch.Settings.Policy
import FirstMatch.Settings.Basic
import FirstMatch.Settings.Reader
import FirstMatch.Run
import FirstMatch.Event
import FirstMatch.Callback
import FirstMatch.Selection
import FirstMatch.Rule
import FirstMatch.Dispatcher
import FirstMatch.Draft
import FirstMatch.Describe
import FirstMatch.Session
import FirstMatch.Domain
import FirstMatch.Script.Whole
import FirstMatch.Script.World
import FirstMatch.Script.Message
import FirstMatch.Script.Shape
import FirstMatch.Script.Output
import FirstMatch.Script.Function
import FirstMatch.Script.Recognizer
import FirstMatch.Proofs.Transcript
import FirstMatch.Proofs.Conversation
import FirstMatch.Proofs.Search
import FirstMatch.Proofs.FirstRule
import FirstMatch.Proofs.Phases
import FirstMatch.Proofs.Chaining
import FirstMatch.Proofs.CatchAll
import FirstMatch.Proofs.Compilation
import FirstMatch.Proofs.Uses
import FirstMatch.Proofs.Provenance
import FirstMatch.Proofs.Rewiring
import FirstMatch.Proofs.Truncation
import FirstMatch.Proofs.NormalForm
import FirstMatch.Proofs.Outcomes
import FirstMatch.Proofs.Queries
import FirstMatch.Proofs.Accounts
import FirstMatch.Proofs.Lineage
import FirstMatch.Proofs.Sharing
import FirstMatch.Proofs.Mapping
import FirstMatch.Proofs.Shadowing
import FirstMatch.Proofs.Grammar
import FirstMatch.Proofs.Reordering
import FirstMatch.Proofs.Reading
import FirstMatch.Proofs.Fallback
import FirstMatch.Proofs.Replacement
import FirstMatch.Proofs.Placement
import FirstMatch.Proofs.Table
import FirstMatch.Proofs.Conjunction
import FirstMatch.Proofs.Shown
import FirstMatch.Proofs.Warnings
import FirstMatch.Proofs.Names
