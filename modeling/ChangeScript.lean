import ChangeScript.Text.Blank
import ChangeScript.Lines
import ChangeScript.Count
import ChangeScript.Attribute
import ChangeScript.Keyword
import ChangeScript.Phase
import ChangeScript.Marker
import ChangeScript.Fault
import ChangeScript.LineClass
import ChangeScript.Operation
import ChangeScript.Progress
import ChangeScript.Printer
import ChangeScript.Finding
import ChangeScript.Review
import ChangeScript.Diagnostic
import ChangeScript.Json
import ChangeScript.Encoding
import ChangeScript.Toml.Reader
import ChangeScript.Fixture.Verdict
import ChangeScript.Frame
import ChangeScript.Dump
import ChangeScript.Command
import ChangeScript.Main
import ChangeScript.Proofs.Attribute
import ChangeScript.Proofs.AttributeGrammar
import ChangeScript.Proofs.Lines
import ChangeScript.Proofs.Spans
import ChangeScript.Proofs.LineTable
import ChangeScript.Proofs.Count
import ChangeScript.Proofs.Marker
import ChangeScript.Proofs.Grammar
import ChangeScript.Proofs.Step
import ChangeScript.Proofs.Acceptance
import ChangeScript.Proofs.Printed
import ChangeScript.Proofs.RoundTrip
import ChangeScript.Proofs.LineKeeping
import ChangeScript.Proofs.Run
import ChangeScript.Proofs.Cuts
import ChangeScript.Proofs.Position
import ChangeScript.Proofs.Renumbering
import ChangeScript.Proofs.Inertness
import ChangeScript.Proofs.Idempotence
import ChangeScript.Proofs.Diagnosis
import ChangeScript.Proofs.Pattern
import ChangeScript.Proofs.Trials
import ChangeScript.Proofs.Classification
import ChangeScript.Proofs.Transitions
import ChangeScript.Proofs.Validation
import ChangeScript.Proofs.Frontmatter
import ChangeScript.Proofs.LineEnds
import ChangeScript.Proofs.JsonText
import ChangeScript.Proofs.Decoding
import ChangeScript.Proofs.Verdict
import ChangeScript.Proofs.Catalog
import ChangeScript.Proofs.Selection
