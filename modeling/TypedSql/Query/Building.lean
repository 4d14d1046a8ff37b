import TypedSql.Query.Predicate

/-!
# Putting queries together

Queries grow clause by clause. A column selected directly must belong to the source the query has
at that moment; a mistake is kept with the query and reported when it is built.
-/

namespace TypedSql

variable {t : ValueType}

/-- A count of rows as a placeholder. -/
def rowCount (n : Int64) : Placeholder :=
  .preset (Expression.whole false).erase (.ok (.integer n))

def Param.placeholder (p : Param t) : Placeholder := .token p.id p.descriptor.erase

namespace Select

/-- Reads from a source, in place of any earlier one. -/
def fromSource (q : Select) (s : Source) : Select := { q with source := some s }

/-- The name of the source in messages. -/
def sourceName (q : Select) : String :=
  match q.source with
  | some s => s.name
  | none => "no source"

/-- Selects a column of the source. -/
def columnRef (q : Select) (c : ColumnRef) : Select :=
  if (q.source.map (·.contains c.key)).getD false then
    { q with items := q.items ++ [.column c] }
  else { q with errors := q.errors ++ [.columnNotInSet c.display q.sourceName] }

def column (q : Select) (c : Column t) : Select := q.columnRef c.ref

/-- Selects every component of a composite column. -/
def composite {α : Type} (q : Select) (c : CompositeColumn α) : Select :=
  c.parts.foldl columnRef q

/-- Selects every column of the source. -/
def allColumns (q : Select) : Select :=
  match q.source with
  | some s => { q with items := q.items ++ s.columns.map .column }
  | none => q

/-- Selects a labelled expression. -/
def project (q : Select) (p : Projection t) : Select :=
  { q with items := q.items ++ [.labelled p.key p.expr p.descriptor.erase] }

def selectDistinct (q : Select) : Select := { q with distinct := true }

/-- Keeps the rows that satisfy the predicate too. -/
def andWhere (q : Select) (p : Predicate) : Select :=
  { q with filter := some (.andAlso q.filter p.expr) }

/-- Keeps the groups that satisfy the predicate too. -/
def andHaving (q : Select) (p : Predicate) : Select :=
  { q with having := some (.andAlso q.having p.expr) }

/-- Groups by one more term; a plain value is stored as the standard form of `k`. -/
def addGroup (q : Select) (o : Operand t) (k : Kind t) : Select :=
  { q with groupBy := q.groupBy ++ [o.toLoneExpr k] }

/-- Sorts by one more term; a plain value is stored as the standard form of `k`. -/
def addOrder (q : Select) (o : Operand t) (k : Kind t) (order : SortOrder) : Select :=
  { q with orderBy := q.orderBy ++ [⟨o.toLoneExpr k, order⟩] }

def withLimit (q : Select) (p : Placeholder) : Select := { q with limit := some p }

def withOffset (q : Select) (p : Placeholder) : Select := { q with offset := some p }

/-- Starts a compound query. -/
def combine (q : Select) (operator : SetOperator) (other : Select) : Compound where
  first := q
  branches := [⟨operator, other⟩]
  orderBy := []
  limit := none
  offset := none
  errors := []

end Select

namespace Compound

def addBranch (q : Compound) (operator : SetOperator) (other : Select) : Compound :=
  { q with branches := q.branches ++ [⟨operator, other⟩] }

/-- Sorts by a result column of the first query. -/
def addOrder (q : Compound) (target : Target t) (order : SortOrder) : Compound :=
  match resultIndex? q.resultColumns target.key with
  | some i => { q with orderBy := q.orderBy ++ [(i, order)] }
  | none => { q with errors := q.errors ++ [.columnNotInSet target.display "compound select"] }

def withLimit (q : Compound) (p : Placeholder) : Compound := { q with limit := some p }

def withOffset (q : Compound) (p : Placeholder) : Compound := { q with offset := some p }

end Compound

namespace Source

/-- A source under another name. Joins and aliases cannot be renamed. -/
def rename (s : Source) (id : SetId) (name : String) : Except SchemaError Source := do
  validateName name
  match s with
  | .relation r => return .alias id name r
  | s => throw (.invalidAlias s.name)

/-- The pairs of columns of one name, one for each left column that has a partner. -/
def sharedColumns (lhs rhs : Source) : List (ColumnRef × ColumnRef) :=
  lhs.columns.filterMap fun l => (rhs.columns.find? (·.name == l.name)).map fun r => (l, r)

/-- The join on equality of all columns of one name, a cross join if there are none. -/
def naturalJoin (lhs rhs : Source) : Source :=
  match sharedColumns lhs rhs with
  | [] => .join .cross lhs rhs none
  | pairs =>
    let equalities := pairs.map fun (l, r) => ⟨.compare .eq (.column l) (.column r)⟩
    .join .inner lhs rhs (some (Predicate.all equalities).expr)

/-- A query as a source. -/
def ofQuery (id : SetId) (q : Query) : Source := .relation (.subquery id q)

end Source
end TypedSql
