import PagedSql.Query.Step
import PagedSql.Request.OfJson
import PagedSql.Service
import PagedSql.Settings.Loading
import PagedSql.Proofs.Placeholder.Numbering
import PagedSql.Proofs.Query.RowsAndCount
import PagedSql.Proofs.Query.Clauses
import PagedSql.Proofs.Filter.Condition
import PagedSql.Proofs.Query.Layer
import PagedSql.Proofs.Query.LayerPieces
import PagedSql.Proofs.Query.Steps
import PagedSql.Proofs.Query.LayerNames
import PagedSql.Proofs.Query.FilterStep
import PagedSql.Proofs.Run.Layers
import PagedSql.Proofs.Run.Kept
import PagedSql.Proofs.Identifier
import PagedSql.Proofs.Identifier.Grammar
import PagedSql.Proofs.Placeholder.Spelling
import PagedSql.Proofs.Placeholder.Occurrence
import PagedSql.Proofs.Placeholder.Settled
import PagedSql.Proofs.Value.Kind
import PagedSql.Proofs.Decimal.Whole
import PagedSql.Proofs.Value.Whole
import PagedSql.Proofs.Settings.Connection
import PagedSql.Proofs.Positional.Compiler
import PagedSql.Proofs.Positional.Conditions
import PagedSql.Proofs.Positional.Layers
import PagedSql.Proofs.Positional.Refinement
import PagedSql.Proofs.Server.Argument
import PagedSql.Proofs.Server.Conversation
import PagedSql.Proofs.KeyMap
import PagedSql.Proofs.Request.Reachable
import PagedSql.Proofs.Run.Entries
import PagedSql.Proofs.Filter.Form
import PagedSql.Proofs.Filter.Operands
import PagedSql.Proofs.Filter.Address
import PagedSql.Proofs.Query.BlankLayer
import PagedSql.Proofs.Run.Noninterference
import PagedSql.Proofs.Text.Brackets
import PagedSql.Proofs.Text.Outline
import PagedSql.Proofs.Query.Asked
import PagedSql.Proofs.Run.Narrowing
import PagedSql.Proofs.Request.Normal
import PagedSql.Proofs.Request.Sent
import PagedSql.Proofs.Run.Checks
import PagedSql.Proofs.Run.Window
import PagedSql.Proofs.Run.Classification
import PagedSql.Proofs.Run.FilterFailure
import PagedSql.Proofs.Run.Ordering
import PagedSql.Proofs.Run.PublicFilters
import PagedSql.Proofs.Run.Ending
import PagedSql.Proofs.Run.Pages
import PagedSql.Proofs.Run.Returned
import PagedSql.Proofs.Query.TakenNames
import PagedSql.Proofs.Bindings.History
import PagedSql.Proofs.Calendar.Fields
import PagedSql.Proofs.Calendar.Attempts
import PagedSql.Proofs.Calendar.Written
import PagedSql.Proofs.Value.Described
import PagedSql.Proofs.Text.Bytes
import PagedSql.Proofs.Placeholder.Bytes
import PagedSql.Proofs.Placeholder.Reading
import PagedSql.Proofs.Placeholder.Walk
