import TriggerRule.Command
import TriggerRule.Main
import TriggerRule.Proofs.Token.Layout
import TriggerRule.Proofs.Rule.Derivation
import TriggerRule.Proofs.Reference
import TriggerRule.Proofs.Rule.Layout
import TriggerRule.Proofs.Rule.Shape
import TriggerRule.Proofs.Rule.Rendering
import TriggerRule.Proofs.Rule.RoundTrip
import TriggerRule.Proofs.Failure
import TriggerRule.Proofs.Rule.Stop
import TriggerRule.Proofs.Rule.Place
import TriggerRule.Proofs.Rule.Repair
import TriggerRule.Proofs.Rule.Diagnosis
import TriggerRule.Proofs.Rule.Enclosing
import TriggerRule.Proofs.Rule.Conservation
import TriggerRule.Proofs.Json.Spelling
import TriggerRule.Proofs.Json.Writing
import TriggerRule.Proofs.Json.RoundTrip
import TriggerRule.Proofs.Rule.Document
import TriggerRule.Proofs.Rule.Openings
import TriggerRule.Proofs.Rule.Parentheses
import TriggerRule.Proofs.Token.Halt
import TriggerRule.Proofs.Rule.Limit
import TriggerRule.Proofs.Rule.Wrapping
import TriggerRule.Proofs.Rule.Composition
import TriggerRule.Proofs.Rule.Loading
import TriggerRule.Proofs.Failure.Position
import TriggerRule.Proofs.Token.Concatenation
import TriggerRule.Proofs.Reference.Listing
import TriggerRule.Proofs.Rule.Height
import TriggerRule.Proofs.Token.Quoting
import TriggerRule.Proofs.Token.Alike
import TriggerRule.Proofs.Failure.Outline
import TriggerRule.Proofs.Token.Escaping
import TriggerRule.Proofs.Rule.Visiting
import TriggerRule.Proofs.Failure.Wording
import TriggerRule.Proofs.Json.Entries
import TriggerRule.Proofs.Rule.Restating
import TriggerRule.Proofs.Log
import TriggerRule.Proofs.Text.Literal
import TriggerRule.Proofs.Token.Listing
import TriggerRule.Proofs.Command
import TriggerRule.Proofs.Rule.Calls
import TriggerRule.Proofs.Token.Loop
import TriggerRule.Proofs.Rule.Descent
