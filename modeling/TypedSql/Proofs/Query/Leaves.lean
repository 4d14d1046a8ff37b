import TypedSql.Query.Statement

/-!
# The leaves of a statement

What a statement is made of, down to the queries nested in it and the queries behind its views:
the columns, labels and placeholders of its expressions, the types it casts to, and the sets it
reads from or changes. Where a statement is required to consist of things of some sort, the
requirement is on its leaves.
-/

namespace TypedSql

/-- What a statement is made of. -/
inductive Leaf where
  /-- A column in an expression, in a select list or given a value. -/
  | column (c : ColumnRef)
  /-- The label of a projection, where it is selected or mentioned. -/
  | label (name : String)
  | bind (p : Placeholder)
  /-- The type an expression is cast to. -/
  | castType (type : String)
  | table (t : Table)
  /-- A view or an alias. -/
  | named (id : SetId) (name : String)
  /-- A query used as a source. -/
  | anonymous (id : SetId)

def placeholderLeaves : Option Placeholder → List Leaf
  | none => []
  | some p => [.bind p]

mutual

def Expr.leaves : Expr → List Leaf
  | .column c => [.column c]
  | .label name => [.label name]
  | .bind p => [.bind p]
  | .countRows => []
  | .compare _ lhs rhs | .binary _ lhs rhs => lhs.leaves ++ rhs.leaves
  | .like _ e pattern escape => e.leaves ++ pattern.leaves ++ optionLeaves escape
  | .isNull _ e | .not e => e.leaves
  | .cast e type => e.leaves ++ [.castType type]
  | .between _ e low high => e.leaves ++ low.leaves ++ high.leaves
  | .inList _ e items => e.leaves ++ listLeaves items
  | .inQuery _ e query => e.leaves ++ query.leaves
  | .existsIn _ query | .scalar query => query.leaves
  | .logical _ operands => listLeaves operands
  | .call _ _ args => listLeaves args

def optionLeaves : Option Expr → List Leaf
  | none => []
  | some e => e.leaves

def listLeaves : List Expr → List Leaf
  | [] => []
  | e :: rest => e.leaves ++ listLeaves rest

def itemLeaves : List ResultItem → List Leaf
  | [] => []
  | .column c :: rest => .column c :: itemLeaves rest
  | .labelled key e _ :: rest => .label key.name :: e.leaves ++ itemLeaves rest

def sortLeaves : List SortTerm → List Leaf
  | [] => []
  | ⟨e, _⟩ :: rest => e.leaves ++ sortLeaves rest

def Select.leaves : Select → List Leaf
  | ⟨source, _, items, filter, groupBy, having, orderBy, limit, offset, _⟩ =>
    fromLeaves source ++ itemLeaves items ++ optionLeaves filter ++ listLeaves groupBy
      ++ optionLeaves having ++ sortLeaves orderBy ++ placeholderLeaves limit
      ++ placeholderLeaves offset

def fromLeaves : Option Source → List Leaf
  | none => []
  | some s => s.leaves

def branchLeaves : List Branch → List Leaf
  | [] => []
  | ⟨_, query⟩ :: rest => query.leaves ++ branchLeaves rest

def Query.leaves : Query → List Leaf
  | .select q => q.leaves
  | .compound ⟨first, branches, _, limit, offset, _⟩ =>
    first.leaves ++ branchLeaves branches ++ placeholderLeaves limit ++ placeholderLeaves offset

def Relation.leaves : Relation → List Leaf
  | .table t => [.table t]
  | .view id name query => .named id name :: query.leaves
  | .subquery id query => .anonymous id :: query.leaves

def Source.leaves : Source → List Leaf
  | .relation r => r.leaves
  | .alias id name r => .named id name :: r.leaves
  | .join _ lhs rhs on => lhs.leaves ++ rhs.leaves ++ optionLeaves on

end

/-- The queries combined. -/
def Compound.queries (q : Compound) : List Select := q.first :: q.branches.map Branch.query

/-- The columns given a value, each with the leaves of what it is given. -/
def Assignments.leaves (a : Assignments) : List Leaf :=
  a.pairs.flatMap fun (c, e) => .column c :: e.leaves

def Statement.leaves : Statement → List Leaf
  | .query q => q.leaves
  | .insert i => .table i.table :: i.values.leaves
  | .update u => .table u.table :: u.assignments.leaves ++ optionLeaves u.filter
  | .delete d => .table d.table :: optionLeaves d.filter

end TypedSql
