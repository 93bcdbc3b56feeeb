import Requote.Cli.Arguments
import Requote.Cli.Outcome
import Requote.Command
import Requote.Concatenation
import Requote.Config
import Requote.Cursor
import Requote.Decline
import Requote.Diagnostic
import Requote.Diff
import Requote.Diff.Compaction
import Requote.Diff.Hunk
import Requote.Diff.Script
import Requote.Document
import Requote.Document.Listing
import Requote.Edit
import Requote.Escape
import Requote.Files
import Requote.Glob
import Requote.Glob.Pattern
import Requote.Literal
import Requote.Main
import Requote.Path
import Requote.Position
import Requote.Proofs.Backwards
import Requote.Proofs.Bodies
import Requote.Proofs.Boundaries
import Requote.Proofs.Carets
import Requote.Proofs.Commutation
import Requote.Proofs.Cursors
import Requote.Proofs.Emptiness
import Requote.Proofs.Flattening
import Requote.Proofs.Fragments
import Requote.Proofs.Grammar
import Requote.Proofs.Innermost
import Requote.Proofs.Interpolation
import Requote.Proofs.Isolation
import Requote.Proofs.Lines
import Requote.Proofs.Literals
import Requote.Proofs.Margins
import Requote.Proofs.Neighbours
import Requote.Proofs.Operands
import Requote.Proofs.Outcomes
import Requote.Proofs.Overlaps
import Requote.Proofs.Paths
import Requote.Proofs.Positions
import Requote.Proofs.Reading
import Requote.Proofs.Relocation
import Requote.Proofs.Reports
import Requote.Proofs.Rereading
import Requote.Proofs.Returns
import Requote.Proofs.Rewriting
import Requote.Proofs.Rounds
import Requote.Proofs.Rows
import Requote.Proofs.Runs
import Requote.Proofs.Scans
import Requote.Proofs.Shape
import Requote.Proofs.Splicing
import Requote.Proofs.Stack
import Requote.Proofs.Steps
import Requote.Proofs.Storage
import Requote.Proofs.Swaps
import Requote.Proofs.Toggles
import Requote.Proofs.Tokens
import Requote.Proofs.Unterminated
import Requote.Proofs.Values
import Requote.Span
import Requote.Target
import Requote.Text
import Requote.Text.Alphanumeric
import Requote.Text.Blank
import Requote.Text.Colour
import Requote.Text.Extending
import Requote.Text.Quoted
import Requote.Text.Ranges
import Requote.Text.Unprintable
import Requote.Token
import Requote.Token.Tiling
import Requote.Toml
import Requote.Toml.Reader
import Requote.Toml.Scalar
