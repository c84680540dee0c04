import LineFold.Command.Standard
import LineFold.Files.Document
import LineFold.Main
import LineFold.Pattern.Compile
import LineFold.Range.Text
import LineFold.Rule
import LineFold.RuleSet
import LineFold.Scan
import LineFold.Settings.Load
import LineFold.Toml.Document
import LineFold.Proofs.Pattern.Escaped
import LineFold.Proofs.Pattern.Literal
import LineFold.Proofs.Pattern.Search
import LineFold.Proofs.Pattern.Span
import LineFold.Proofs.Range.Clamping
import LineFold.Proofs.Range.RoundTrip
import LineFold.Proofs.Rule.Fields
import LineFold.Proofs.Rule.Independence
import LineFold.Proofs.Rule.Literal
import LineFold.Proofs.Rule.Logged
import LineFold.Proofs.Rule.Warnings
import LineFold.Proofs.RuleSet.Clamping
import LineFold.Proofs.Scan.Adjustment
import LineFold.Proofs.Scan.AnyOrder
import LineFold.Proofs.Scan.Brackets
import LineFold.Proofs.Scan.Cache
import LineFold.Proofs.Scan.Cancelling
import LineFold.Proofs.Scan.Closing
import LineFold.Proofs.Scan.Coverage
import LineFold.Proofs.Scan.DeadRules
import LineFold.Proofs.Scan.DeclarationOrder
import LineFold.Proofs.Scan.Edits
import LineFold.Proofs.Scan.FirstMarker
import LineFold.Proofs.Scan.Nesting
import LineFold.Proofs.Scan.Ownership
import LineFold.Proofs.Scan.Pairing
import LineFold.Proofs.Scan.Positions
import LineFold.Proofs.Scan.Probes
import LineFold.Proofs.Scan.Recovery
import LineFold.Proofs.Scan.Stack
import LineFold.Proofs.Scan.Walk
import LineFold.Proofs.Files.Path
import LineFold.Proofs.Files.Walk
import LineFold.Proofs.Files.Resolve
import LineFold.Proofs.Files.Confinement
import LineFold.Proofs.Files.Links
import LineFold.Proofs.Files.Refusals
import LineFold.Proofs.Files.Changes
import LineFold.Proofs.Settings.Reading
import LineFold.Proofs.Settings.Nearest
import LineFold.Proofs.Settings.Malformed
import LineFold.Proofs.Files.Existing
import LineFold.Proofs.Files.Document
import LineFold.Proofs.Settings.Building
import LineFold.Proofs.Settings.Spelling
import LineFold.Proofs.Value.Entries
import LineFold.Proofs.Command.Run
