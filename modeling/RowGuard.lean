import RowGuard.Codec.Query
import RowGuard.Codec.Rule
import RowGuard.Filter.Text
import RowGuard.Http.Service
import RowGuard.Json.Reader
import RowGuard.Main
import RowGuard.Sql.Reply
import RowGuard.Task.Schedule
import RowGuard.Proofs.Except
import RowGuard.Proofs.Dialogue
import RowGuard.Proofs.Keyed
import RowGuard.Proofs.Text.CodePoint
import RowGuard.Proofs.Text.Run
import RowGuard.Proofs.Text.Blank
import RowGuard.Proofs.Text.Numeral
import RowGuard.Proofs.Number.Rounding
import RowGuard.Proofs.Number.Order
import RowGuard.Proofs.Number.Range
import RowGuard.Proofs.Json.Same
import RowGuard.Proofs.Json.ByValue
import RowGuard.Proofs.Json.Identifier
import RowGuard.Proofs.Json.Token
import RowGuard.Proofs.Timestamp.RoundTrip
import RowGuard.Proofs.Codec.Fields
import RowGuard.Proofs.Codec.RoundTrip
import RowGuard.Proofs.Filter.Meaning
import RowGuard.Proofs.Filter.Compared
import RowGuard.Proofs.Filter.Equality
import RowGuard.Proofs.Filter.Parts
import RowGuard.Proofs.Filter.Distinct
import RowGuard.Proofs.Filter.Normal
import RowGuard.Proofs.Filter.Algebra
import RowGuard.Proofs.Rule.Agreement
import RowGuard.Proofs.Rule.Compared
import RowGuard.Proofs.Rule.Order
import RowGuard.Proofs.Rule.Owners
import RowGuard.Proofs.Rule.Policy
import RowGuard.Proofs.Rule.Rights
import RowGuard.Proofs.Rule.TypeLevel
import RowGuard.Proofs.Store.Rows
import RowGuard.Proofs.Store.Identifiers
import RowGuard.Proofs.Store.Edit
import RowGuard.Proofs.Store.Reachable
import RowGuard.Proofs.Store.Books
import RowGuard.Proofs.Store.Representation
import RowGuard.Proofs.Guard.Narrowed
import RowGuard.Proofs.Guard.Scoped
import RowGuard.Proofs.Guard.ById
import RowGuard.Proofs.Guard.Questions
import RowGuard.Proofs.Guard.Calls
import RowGuard.Proofs.Guard.Reports
import RowGuard.Proofs.Guard.Refusals
import RowGuard.Proofs.Guard.Drafts
import RowGuard.Proofs.Clients.Basic
import RowGuard.Proofs.Clients.Safety
import RowGuard.Proofs.Clients.History
import RowGuard.Proofs.Clients.Ownership
import RowGuard.Proofs.Clients.Books
import RowGuard.Proofs.Post.Stored
import RowGuard.Proofs.Post.Map
import RowGuard.Proofs.Post.Writes
import RowGuard.Proofs.Post.Refinement
import RowGuard.Proofs.Post.Requests
import RowGuard.Proofs.Post.Judged
import RowGuard.Proofs.Http.Header
import RowGuard.Proofs.Http.Caller
import RowGuard.Proofs.Http.MediaType
import RowGuard.Proofs.Http.Address
import RowGuard.Proofs.Http.Skipped
import RowGuard.Proofs.Http.Form
import RowGuard.Proofs.Http.Body
import RowGuard.Proofs.Http.Asks
import RowGuard.Proofs.Http.Replies
import RowGuard.Proofs.Http.EndToEnd
import RowGuard.Proofs.Http.Identity
import RowGuard.Proofs.Sql.Token
import RowGuard.Proofs.Sql.Expression
import RowGuard.Proofs.Sql.Evaluation
import RowGuard.Proofs.Sql.Clause
import RowGuard.Proofs.Sql.Condition
import RowGuard.Proofs.Sql.Selection
import RowGuard.Proofs.Sql.Statement
import RowGuard.Proofs.Sql.Binding
import RowGuard.Proofs.Sql.Sent
import RowGuard.Proofs.Sql.Sentence
import RowGuard.Proofs.Sql.Table
import RowGuard.Proofs.Sql.Reflection
import RowGuard.Proofs.Sql.Backends
import RowGuard.Proofs.Sql.ByValue
import RowGuard.Proofs.Sql.Aggregate
import RowGuard.Proofs.Aggregate.Basic
import RowGuard.Proofs.Aggregate.Extreme
import RowGuard.Proofs.Aggregate.Sum
import RowGuard.Proofs.Aggregate.Null
import RowGuard.Proofs.Task.Frame
import RowGuard.Proofs.Task.Lexical
import RowGuard.Proofs.Task.Answers
import RowGuard.Proofs.Task.Isolation
