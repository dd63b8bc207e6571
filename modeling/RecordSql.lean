import RecordSql.Binary.Double
import RecordSql.Binary.Format
import RecordSql.Binary.Reader
import RecordSql.Binary.Shortest
import RecordSql.Binary.Text
import RecordSql.Bind
import RecordSql.Calendar.Date
import RecordSql.Calendar.Reader
import RecordSql.Calendar.Timestamp
import RecordSql.Clock
import RecordSql.ColumnType
import RecordSql.Connection.Address
import RecordSql.Connection.KeyValue
import RecordSql.Connection.Setting
import RecordSql.Connection.Target
import RecordSql.Connection.Url
import RecordSql.Deadline
import RecordSql.Declaration.Basic
import RecordSql.Declaration.Descriptor
import RecordSql.Declaration.FieldTable
import RecordSql.Declaration.Literal
import RecordSql.Declaration.Path
import RecordSql.Duration
import RecordSql.Error
import RecordSql.Integer
import RecordSql.Json.Basic
import RecordSql.Json.Number
import RecordSql.Json.Reader
import RecordSql.Json.Text
import RecordSql.Json.Writer
import RecordSql.Naming
import RecordSql.Nullable
import RecordSql.Numeric.Basic
import RecordSql.Numeric.Reader
import RecordSql.Numeric.Wire
import RecordSql.Paging.Compile
import RecordSql.Paging.Operator
import RecordSql.Paging.Parameters
import RecordSql.Paging.Request
import RecordSql.Proofs.Bind.CanonicalText
import RecordSql.Proofs.Bind.DateText
import RecordSql.Proofs.Bind.Integers
import RecordSql.Proofs.Bind.Spelling
import RecordSql.Proofs.Bind.TextArray
import RecordSql.Proofs.Bind.TimestampText
import RecordSql.Proofs.Calendar.Days
import RecordSql.Proofs.Calendar.Scan
import RecordSql.Proofs.Calendar.Stored
import RecordSql.Proofs.Deadline.Timeline
import RecordSql.Proofs.Declaration.Attributes
import RecordSql.Proofs.Declaration.FieldTable
import RecordSql.Proofs.Json.Scalar
import RecordSql.Proofs.Nullable.Json
import RecordSql.Proofs.Nullable.Wire
import RecordSql.Proofs.Paging.Bigint
import RecordSql.Proofs.Paging.Configuration
import RecordSql.Proofs.Paging.Criteria
import RecordSql.Proofs.Paging.FilterOrder
import RecordSql.Proofs.Paging.Grammar
import RecordSql.Proofs.Paging.Multimap
import RecordSql.Proofs.Paging.Noninterference
import RecordSql.Proofs.Paging.Numbering
import RecordSql.Proofs.Paging.Sorting
import RecordSql.Proofs.Paging.Windows
import RecordSql.Proofs.Record.Extraction
import RecordSql.Proofs.Record.FirstUsable
import RecordSql.Proofs.Record.TagOptions
import RecordSql.Proofs.Server.Answered
import RecordSql.Proofs.Sql.Acceptance
import RecordSql.Proofs.Sql.BulkInsert
import RecordSql.Proofs.Sql.Columns
import RecordSql.Proofs.Sql.DeclarationOrder
import RecordSql.Proofs.Sql.Identifier
import RecordSql.Proofs.Sql.NormalForm
import RecordSql.Proofs.Sql.Numbering
import RecordSql.Proofs.Sql.PlaceholderScan
import RecordSql.Proofs.Sql.Spacing
import RecordSql.Proofs.Sql.Substitution
import RecordSql.Proofs.Sql.Update
import RecordSql.Proofs.Store.Action
import RecordSql.Proofs.Store.Arrival
import RecordSql.Proofs.Store.Attempts
import RecordSql.Proofs.Store.Backlog
import RecordSql.Proofs.Store.Checkout
import RecordSql.Proofs.Store.Commit
import RecordSql.Proofs.Store.Conservation
import RecordSql.Proofs.Store.Custody
import RecordSql.Proofs.Store.Discipline
import RecordSql.Proofs.Store.Exchange
import RecordSql.Proofs.Store.Execution
import RecordSql.Proofs.Store.Hearing
import RecordSql.Proofs.Store.History
import RecordSql.Proofs.Store.Messages
import RecordSql.Proofs.Store.Operations
import RecordSql.Proofs.Store.Patience
import RecordSql.Proofs.Store.Quiescence
import RecordSql.Proofs.Store.Reachable
import RecordSql.Proofs.Store.Record
import RecordSql.Proofs.Store.Reply
import RecordSql.Proofs.Store.ReturnedId
import RecordSql.Proofs.Store.Reuse
import RecordSql.Proofs.Store.Run
import RecordSql.Proofs.Store.Scanning
import RecordSql.Proofs.Store.Scene
import RecordSql.Proofs.Store.Sound
import RecordSql.Proofs.Store.Statement
import RecordSql.Proofs.Store.Timeliness
import RecordSql.Proofs.Store.Transaction
import RecordSql.Proofs.StoreConfig.Sources
import RecordSql.Proofs.Wire.ByteOrder
import RecordSql.Proofs.Wire.TwosComplement
import RecordSql.Record
import RecordSql.Row
import RecordSql.Server.Link
import RecordSql.Server.Script
import RecordSql.Sql.Argument
import RecordSql.Sql.Builder
import RecordSql.Sql.Identifier
import RecordSql.Sql.Statement
import RecordSql.Sql.Template
import RecordSql.Store.Call
import RecordSql.Store.Checkout
import RecordSql.Store.Exchange
import RecordSql.Store.Log
import RecordSql.Store.Scan
import RecordSql.Store.Statement
import RecordSql.Store.Step
import RecordSql.Store.Transaction
import RecordSql.Store.World
import RecordSql.StoreConfig
import RecordSql.Tag
import RecordSql.Text.Hex
import RecordSql.Text.Quoted
import RecordSql.Text.Split
import RecordSql.Text.UrlEncoded
import RecordSql.Unicode.Blank
import RecordSql.Unicode.Case
import RecordSql.Unicode.CodeSet
import RecordSql.Unicode.Letter
import RecordSql.Unicode.Lossy
import RecordSql.Unicode.Printable
import RecordSql.Uuid
import RecordSql.Value
import RecordSql.Wire.Bytes
