import RowBatch.Environment.File
import RowBatch.Environment.Reference
import RowBatch.Executor
import RowBatch.Log.Filter
import RowBatch.Manifest.File
import RowBatch.Statement.Reading
import RowBatch.Statement.Template
import RowBatch.Store.Opening
import RowBatch.Value
import RowBatch.Wire.Bind
import RowBatch.Writer.Journal
import RowBatch.Proofs.Environment.Reading
import RowBatch.Proofs.Environment.Search
import RowBatch.Proofs.Environment.Settings
import RowBatch.Proofs.Log.Scope
import RowBatch.Proofs.Manifest.Environment
import RowBatch.Proofs.Manifest.RoundTrip
import RowBatch.Proofs.Manifest.Validation
import RowBatch.Proofs.Markup.Search
import RowBatch.Proofs.Statement.Layout
import RowBatch.Proofs.Statement.Named
import RowBatch.Proofs.Statement.Numbering
import RowBatch.Proofs.Statement.Unambiguous
import RowBatch.Proofs.Text.Unambiguous
import RowBatch.Proofs.Update.Dialects
import RowBatch.Proofs.Update.Language
import RowBatch.Proofs.Update.Quoting
import RowBatch.Proofs.Update.Rejection
import RowBatch.Proofs.Wire.Binding
import RowBatch.Proofs.Wire.Reading
import RowBatch.Proofs.Writer.Adapter
import RowBatch.Proofs.Writer.Answer
import RowBatch.Proofs.Writer.Blocking
import RowBatch.Proofs.Writer.Chunking
import RowBatch.Proofs.Writer.Conservation
import RowBatch.Proofs.Writer.Correspondence
import RowBatch.Proofs.Writer.Counters
import RowBatch.Proofs.Writer.Failure
import RowBatch.Proofs.Writer.Indifference
import RowBatch.Proofs.Writer.Ledger
import RowBatch.Proofs.Writer.Likeness
import RowBatch.Proofs.Writer.Move
import RowBatch.Proofs.Writer.Operation
import RowBatch.Proofs.Writer.Protocol
import RowBatch.Proofs.Writer.Renewal
import RowBatch.Proofs.Writer.Representation
import RowBatch.Proofs.Writer.Transparency
