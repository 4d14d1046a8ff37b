import TypedSql.Error.Schema
import TypedSql.Query.Operator
import TypedSql.Schema.Table

/-!
# Queries as trees

Expressions, queries and the sources they read from refer to one another: an expression may hold a
query, a query reads from a source, and a source may be a query again or join two others on an
expression. The trees say what a statement is; how it is written is a function of them.

Nothing in the trees is stored twice. The columns of a source, the result columns of a query and
the mistakes in a join condition are computed from the tree.
-/

namespace TypedSql

/-- A place in a statement where a value is bound. -/
inductive Placeholder where
  /-- Bound by its token, everywhere the token is written. -/
  | token (id : ParamId) (type : AnyDescriptor)
  /-- Bound by position only. -/
  | blank (type : AnyDescriptor)
  /-- Holds a value of the statement itself, or the error of storing it. -/
  | preset (type : AnyDescriptor) (value : Except ConversionError StorageValue)

namespace Placeholder

def type : Placeholder → AnyDescriptor
  | .token _ type => type
  | .blank type => type
  | .preset type _ => type

def id? : Placeholder → Option ParamId
  | .token id _ => some id
  | _ => none

end Placeholder

mutual

/-- An expression, whatever its value type. -/
inductive Expr where
  | column (c : ColumnRef)
  /-- The name of a result column. -/
  | label (name : String)
  | bind (p : Placeholder)
  | compare (op : CompareOp) (lhs rhs : Expr)
  | like (negated : Bool) (e pattern : Expr) (escape : Option Expr)
  | isNull (negated : Bool) (e : Expr)
  | between (negated : Bool) (e low high : Expr)
  | inList (negated : Bool) (e : Expr) (items : List Expr)
  | inQuery (negated : Bool) (e : Expr) (query : Select)
  | existsIn (negated : Bool) (query : Select)
  /-- A conjunction or disjunction of any number of operands. -/
  | logical (op : LogicalOp) (operands : List Expr)
  | not (e : Expr)
  | binary (op : BinaryOp) (lhs rhs : Expr)
  | call (f : SqlFunction) (distinct : Bool) (args : List Expr)
  | countRows
  | cast (e : Expr) (type : String)
  /-- The single value of a query. -/
  | scalar (query : Select)

/-- An entry of a select list. -/
inductive ResultItem where
  | column (c : ColumnRef)
  | labelled (key : ColumnKey) (e : Expr) (type : AnyDescriptor)

/-- A term of ORDER BY. -/
structure SortTerm where
  e : Expr
  order : SortOrder

/-- A query without set operators. -/
structure Select where
  source : Option Source
  distinct : Bool
  /-- The select list; an empty one selects every column of the source. -/
  items : List ResultItem
  filter : Option Expr
  groupBy : List Expr
  having : Option Expr
  orderBy : List SortTerm
  limit : Option Placeholder
  offset : Option Placeholder
  /-- Mistakes noticed while the query was put together. -/
  errors : List SchemaError

/-- A query added to others by a set operator. -/
structure Branch where
  operator : SetOperator
  query : Select

/-- Queries combined from left to right. -/
structure Compound where
  first : Select
  branches : List Branch
  /-- Positions in the result, counted from zero. -/
  orderBy : List (Nat × SortOrder)
  limit : Option Placeholder
  offset : Option Placeholder
  errors : List SchemaError

/-- A query with or without set operators. -/
inductive Query where
  | select (q : Select)
  | compound (q : Compound)

/-- A set of columns of its own. -/
inductive Relation where
  | table (t : Table)
  | view (id : SetId) (name : String) (query : Select)
  | subquery (id : SetId) (query : Query)

/-- What a query reads from. -/
inductive Source where
  | relation (r : Relation)
  | alias (id : SetId) (name : String) (r : Relation)
  | join (kind : JoinKind) (lhs rhs : Source) (on : Option Expr)

end

/-- The query that selects nothing from nowhere. -/
def Select.empty : Select where
  source := none
  distinct := false
  items := []
  filter := none
  groupBy := []
  having := none
  orderBy := []
  limit := none
  offset := none
  errors := []

instance : Inhabited Select := ⟨.empty⟩

end TypedSql
