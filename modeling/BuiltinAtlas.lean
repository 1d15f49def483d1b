import BuiltinAtlas.Main
import BuiltinAtlas.Proofs.Dictionary.Lookup
import BuiltinAtlas.Proofs.Json.Quote
import BuiltinAtlas.Proofs.Json.Number
import BuiltinAtlas.Proofs.Json.Reads
import BuiltinAtlas.Proofs.Atlas.Written
import BuiltinAtlas.Proofs.Files.Entry
import BuiltinAtlas.Proofs.Files.Stays
import BuiltinAtlas.Proofs.Files.Walk
import BuiltinAtlas.Proofs.Files.Parent
import BuiltinAtlas.Proofs.Files.Location
import BuiltinAtlas.Proofs.Files.Canonical
import BuiltinAtlas.Proofs.Files.Kept
import BuiltinAtlas.Proofs.Files.Scan
import BuiltinAtlas.Proofs.Job.Run
import BuiltinAtlas.Proofs.Survey.Origin
import BuiltinAtlas.Proofs.Survey.Latest
import BuiltinAtlas.Proofs.Index.Step
import BuiltinAtlas.Proofs.Index.Log
import BuiltinAtlas.Proofs.Index.Settled
import BuiltinAtlas.Proofs.Index.Persistence
import BuiltinAtlas.Proofs.Index.Saving
import BuiltinAtlas.Proofs.Index.Indexing
import BuiltinAtlas.Proofs.Index.Visited
import BuiltinAtlas.Proofs.Index.Run
import BuiltinAtlas.Proofs.Index.History
import BuiltinAtlas.Proofs.Index.Unchanged
import BuiltinAtlas.Proofs.Index.Tidy
import BuiltinAtlas.Proofs.Index.Incremental
import BuiltinAtlas.Proofs.Index.Provenance
import BuiltinAtlas.Proofs.Index.Rerun
import BuiltinAtlas.Proofs.Index.Batch
import BuiltinAtlas.Proofs.Index.Answer
import BuiltinAtlas.Proofs.Files.Without
import BuiltinAtlas.Proofs.Index.Intake
import BuiltinAtlas.Proofs.Index.Union
import BuiltinAtlas.Proofs.Files.Creation
import BuiltinAtlas.Proofs.Index.Failing
import BuiltinAtlas.Proofs.Index.Refusal
import BuiltinAtlas.Proofs.Index.Query
import BuiltinAtlas.Proofs.Files.Touches
import BuiltinAtlas.Proofs.Index.Replacing
import BuiltinAtlas.Proofs.Index.Footprint
import BuiltinAtlas.Proofs.Job.Quiet
import BuiltinAtlas.Proofs.Command.Outcome
import BuiltinAtlas.Proofs.Command.Effects
import BuiltinAtlas.Proofs.Json.Form
import BuiltinAtlas.Proofs.Json.Trees
import BuiltinAtlas.Proofs.Json.Printed
import BuiltinAtlas.Proofs.Index.Limit
import BuiltinAtlas.Proofs.Index.Loading
import BuiltinAtlas.Proofs.Symbol.Written
import BuiltinAtlas.Proofs.Command.Line
import BuiltinAtlas.Proofs.Command.Agreement
import BuiltinAtlas.Proofs.Atlas.Method
import BuiltinAtlas.Proofs.Source.Bytes
import BuiltinAtlas.Proofs.Source.Parentheses
import BuiltinAtlas.Proofs.Source.Mention
import BuiltinAtlas.Proofs.Source.Call
import BuiltinAtlas.Proofs.Source.Expansion
import BuiltinAtlas.Proofs.Source.Guard
import BuiltinAtlas.Proofs.Source.Unclosed
import BuiltinAtlas.Proofs.Source.Search
import BuiltinAtlas.Proofs.Survey.Value
import BuiltinAtlas.Proofs.Survey.Rearrangement
import BuiltinAtlas.Proofs.Survey.Table
import BuiltinAtlas.Proofs.Survey.Designation
import BuiltinAtlas.Proofs.Survey.Registration
import BuiltinAtlas.Proofs.Survey.Wrapping
import BuiltinAtlas.Proofs.Syntax.Node
import BuiltinAtlas.Proofs.Construct.Lowering
import BuiltinAtlas.Proofs.Construct.Nesting
import BuiltinAtlas.Proofs.Construct.Interruption
import BuiltinAtlas.Proofs.Text.Raw
import BuiltinAtlas.Proofs.Text.Utf8
import BuiltinAtlas.Proofs.Text.Decoding
import BuiltinAtlas.Proofs.Command.Completion
import BuiltinAtlas.Proofs.Command.Shorthand
import BuiltinAtlas.Proofs.Files.Inside
import BuiltinAtlas.Proofs.Archive.Turn
import BuiltinAtlas.Proofs.Archive.Installing
import BuiltinAtlas.Proofs.Files.Removed
import BuiltinAtlas.Proofs.Archive.Downloading
import BuiltinAtlas.Proofs.Files.Listing
