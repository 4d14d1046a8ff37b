import TypedSql.Calendar.Date
import TypedSql.Calendar.Reading
import TypedSql.Calendar.Time
import TypedSql.Calendar.Writing
import TypedSql.Dialect
import TypedSql.Error.Conversion
import TypedSql.Error.Schema
import TypedSql.Error.Statement
import TypedSql.Kind.Basic
import TypedSql.Kind.Composite
import TypedSql.Kind.Conversion
import TypedSql.Kind.Descriptor
import TypedSql.Library.Basic
import TypedSql.Library.Calendar
import TypedSql.Library.Decimal
import TypedSql.Library.DecimalLaws
import TypedSql.Library.Standard
import TypedSql.Library.Uuid
import TypedSql.Number.Binary64
import TypedSql.Number.Decimal.Basic
import TypedSql.Number.Decimal.OfFloat
import TypedSql.Number.Decimal.Reading
import TypedSql.Number.Numeral
import TypedSql.Number.RealText
import TypedSql.Number.Shortest
import TypedSql.Number.Width
import TypedSql.Proofs.Calendar.Chronology
import TypedSql.Proofs.Calendar.Days
import TypedSql.Proofs.Calendar.Fields
import TypedSql.Proofs.Calendar.FixedWidth
import TypedSql.Proofs.Calendar.Lossless
import TypedSql.Proofs.Calendar.Order
import TypedSql.Proofs.Calendar.Range
import TypedSql.Proofs.Calendar.ReadBack
import TypedSql.Proofs.Calendar.Standard
import TypedSql.Proofs.Calendar.Steps
import TypedSql.Proofs.Compound.Bodies
import TypedSql.Proofs.Compound.Lexeme
import TypedSql.Proofs.Compound.ReadBack
import TypedSql.Proofs.Compound.Reader
import TypedSql.Proofs.Compound.SetOff
import TypedSql.Proofs.Compound.Words
import TypedSql.Proofs.Grammar.Agreement
import TypedSql.Proofs.Grammar.Composites
import TypedSql.Proofs.Grammar.Conditions
import TypedSql.Proofs.Grammar.Expression
import TypedSql.Proofs.Grammar.Keyword
import TypedSql.Proofs.Grammar.Meaning
import TypedSql.Proofs.Grammar.Nesting
import TypedSql.Proofs.Grammar.Nodes
import TypedSql.Proofs.Grammar.Operators
import TypedSql.Proofs.Grammar.Parser
import TypedSql.Proofs.Grammar.ReadBack
import TypedSql.Proofs.Grammar.Reading
import TypedSql.Proofs.Grammar.Token
import TypedSql.Proofs.Joins.Checks
import TypedSql.Proofs.Joins.Natural
import TypedSql.Proofs.Joins.ReadBack
import TypedSql.Proofs.Joins.Reader
import TypedSql.Proofs.Kind.Coercion
import TypedSql.Proofs.Number.HalfEven
import TypedSql.Proofs.Number.ScaledStorage
import TypedSql.Proofs.Number.StandardDecimals
import TypedSql.Proofs.Outline.Building
import TypedSql.Proofs.Outline.Calls
import TypedSql.Proofs.Outline.Columns
import TypedSql.Proofs.Outline.Pieces
import TypedSql.Proofs.Outline.Statement
import TypedSql.Proofs.Outline.Text
import TypedSql.Proofs.Outline.Tree
import TypedSql.Proofs.Query.Assembled
import TypedSql.Proofs.Query.Exposed
import TypedSql.Proofs.Query.Flattening
import TypedSql.Proofs.Query.Grouping
import TypedSql.Proofs.Query.Labels
import TypedSql.Proofs.Query.Leaves
import TypedSql.Proofs.Query.Lineage
import TypedSql.Proofs.Query.Names
import TypedSql.Proofs.Query.Naming
import TypedSql.Proofs.Query.NormalForm
import TypedSql.Proofs.Query.Nullability
import TypedSql.Proofs.Query.Placeholders
import TypedSql.Proofs.Query.Scoping
import TypedSql.Proofs.Query.Selecting
import TypedSql.Proofs.Query.Sessions
import TypedSql.Proofs.Query.Substitution
import TypedSql.Proofs.Render.Assigning
import TypedSql.Proofs.Render.Borrowing
import TypedSql.Proofs.Render.Builds
import TypedSql.Proofs.Render.Clear
import TypedSql.Proofs.Render.Dialects
import TypedSql.Proofs.Render.Own
import TypedSql.Proofs.Render.Parts
import TypedSql.Proofs.Render.Performed
import TypedSql.Proofs.Render.Piece
import TypedSql.Proofs.Render.Pieces
import TypedSql.Proofs.Render.Placeholders
import TypedSql.Proofs.Render.Pooling
import TypedSql.Proofs.Render.Positions
import TypedSql.Proofs.Render.Provenance
import TypedSql.Proofs.Render.Reached
import TypedSql.Proofs.Render.References
import TypedSql.Proofs.Render.RowValues
import TypedSql.Proofs.Render.SameNames
import TypedSql.Proofs.Render.SelectList
import TypedSql.Proofs.Render.StatementPieces
import TypedSql.Proofs.Render.Substitution
import TypedSql.Proofs.Render.Text
import TypedSql.Proofs.Render.Written
import TypedSql.Proofs.Run.Binding
import TypedSql.Proofs.Run.Contract
import TypedSql.Proofs.Run.Interchange
import TypedSql.Proofs.Run.Isolation
import TypedSql.Proofs.Run.Lookup
import TypedSql.Proofs.Run.NullPolicy
import TypedSql.Proofs.Run.OffsetTimestamps
import TypedSql.Proofs.Run.Routes
import TypedSql.Proofs.Run.Slots
import TypedSql.Proofs.Schema.Built
import TypedSql.Proofs.Schema.CircleReport
import TypedSql.Proofs.Schema.Crafting
import TypedSql.Proofs.Schema.CreationOrder
import TypedSql.Proofs.Schema.Declared
import TypedSql.Proofs.Schema.Delimited
import TypedSql.Proofs.Schema.Determined
import TypedSql.Proofs.Schema.Drafting
import TypedSql.Proofs.Schema.Entries
import TypedSql.Proofs.Schema.LeastOrder
import TypedSql.Proofs.Schema.Literals
import TypedSql.Proofs.Schema.Peeling
import TypedSql.Proofs.Schema.Placing
import TypedSql.Proofs.Schema.Requests
import TypedSql.Proofs.Schema.Unambiguous
import TypedSql.Proofs.Storage.Scanning
import TypedSql.Query.Building
import TypedSql.Query.Columns
import TypedSql.Query.Expression
import TypedSql.Query.Operator
import TypedSql.Query.Predicate
import TypedSql.Query.Statement
import TypedSql.Query.Syntax
import TypedSql.Render.Lending
import TypedSql.Render.Pool
import TypedSql.Render.Query
import TypedSql.Render.Rendering
import TypedSql.Render.Seed
import TypedSql.Render.Slot
import TypedSql.Render.Writer
import TypedSql.Run.Arguments
import TypedSql.Run.Compiled
import TypedSql.Run.ResultRow
import TypedSql.Run.Row
import TypedSql.Run.Scripted
import TypedSql.Schema.Column
import TypedSql.Schema.CreationOrder
import TypedSql.Schema.Definition
import TypedSql.Schema.Identity
import TypedSql.Schema.Table
import TypedSql.Storage.Literal
import TypedSql.Storage.Plain
import TypedSql.Storage.Value
import TypedSql.Text.Ascii
import TypedSql.Text.Blank
import TypedSql.Text.Combining
import TypedSql.Text.Quoted
import TypedSql.Text.Unprintable
import TypedSql.Uuid
