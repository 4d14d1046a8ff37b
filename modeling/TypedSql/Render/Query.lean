import TypedSql.Query.Statement
import TypedSql.Render.Rendering

/-!
# Rendering statements

Every clause is written in the order of SQL. An operand that binds no tighter than its operator
gets parentheses.

A column in an expression must belong to the source of an enclosing query, the innermost first. A
column selected directly was checked when it was added.
-/

namespace TypedSql

open Render

def Scope.ofSource : Option Source → Scope
  | some s => ⟨s.name, s.columns⟩
  | none => ⟨"no source", []⟩

/-- The binding strength of comparisons and the other predicates. -/
def predicateLevel : Nat := 4

/-- The binding strength of what never needs parentheses. -/
def atomLevel : Nat := 10

/-- The keyword of a predicate, behind `NOT` where it is negated. -/
def negatable (negated : Bool) (word : String) : String :=
  (if negated then " NOT " else " ") ++ word

namespace Expr

/-- How tightly an expression holds together. -/
def precedence : Expr → Nat
  | .logical .or _ => 1
  | .logical .and _ => 2
  | .not _ | .existsIn true _ => 3
  | .compare .. | .like .. | .isNull .. | .between .. | .inList .. | .inQuery .. => predicateLevel
  | .binary op _ _ => op.precedence
  | _ => atomLevel

/-- A conjunction inside a disjunction or the other way round. -/
def isOtherLogical (op : LogicalOp) : Expr → Bool
  | .logical inner _ => inner != op
  | _ => false

end Expr

/-- `LIMIT` and `OFFSET`; an offset needs a limit in front, and -1 is none. -/
def renderLimit : Option Placeholder → Option Placeholder → Render
  | some l, some o => do
    text " LIMIT "
    placeholder l
    text " OFFSET "
    placeholder o
  | some l, none => do
    text " LIMIT "
    placeholder l
  | none, some o => do
    text " LIMIT -1 OFFSET "
    placeholder o
  | none, none => pure ()

/-- Notices a name that an earlier part of the select list has. -/
def checkRepeated (seen : List String) (e : NamedEntry) : Render :=
  if seen.contains e.name then defer (.duplicateColumn "result" e.name) else pure ()

/-- The name of a part in the result, where it is not the column's own. -/
def renderLabel (e : NamedEntry) : Render :=
  let label : Render := do
    text " AS "
    identifier e.name
  match e.entry with
  | .labelled .. => label
  | .column _ => if e.renamed then label else pure ()

/-- The parts of a select list with their names in the result. -/
def renderListed (seen : List String) : List (NamedEntry × Render) → List Render
  | [] => []
  | (e, body) :: rest =>
    (do
      checkRepeated seen e
      body
      renderLabel e) :: renderListed (e.name :: seen) rest

/-- The columns of a source as parts of a select list. -/
def renderColumns (columns : List ColumnRef) : List Render :=
  columns.map fun c => qualified c.qualifier c.name

mutual

def Expr.render : Expr → Render
  | .column c => do
    checkScope c
    qualified c.qualifier c.name
  | .label name => identifier name
  | .bind p => placeholder p
  | .compare op lhs rhs => do
    guarded (lhs.precedence ≤ predicateLevel) lhs.render
    text (" " ++ op.sql ++ " ")
    guarded (rhs.precedence ≤ predicateLevel) rhs.render
  | .like negated e pattern escape => do
    guarded (e.precedence ≤ predicateLevel) e.render
    text (negatable negated "LIKE ")
    guarded (pattern.precedence ≤ predicateLevel) pattern.render
    renderEscape escape
  | .isNull negated e => do
    guarded (e.precedence ≤ predicateLevel) e.render
    text (if negated then " IS NOT NULL" else " IS NULL")
  | .between negated e low high => do
    guarded (e.precedence ≤ predicateLevel) e.render
    text (negatable negated "BETWEEN ")
    guarded (low.precedence ≤ predicateLevel) low.render
    text " AND "
    guarded (high.precedence ≤ predicateLevel) high.render
  -- Nothing is in the empty list, whatever is looked for.
  | .inList negated _ [] => text (if negated then "TRUE" else "FALSE")
  | .inList negated e (item :: items) => do
    guarded (e.precedence ≤ predicateLevel) e.render
    text (negatable negated "IN (")
    separated ", " (item.render :: renderEach items)
    text ")"
  | .inQuery negated e query => do
    guarded (e.precedence ≤ predicateLevel) e.render
    text (negatable negated "IN ")
    nested query.render
  | .existsIn negated query => do
    text (if negated then "NOT EXISTS " else "EXISTS ")
    nested query.render
  | .logical op [] => text op.identity
  | .logical op (e :: operands) =>
    separated op.separator
      (guarded (e.isOtherLogical op) e.render :: renderOperands op operands)
  | .not e => do
    text "NOT "
    guarded (e.precedence < atomLevel) e.render
  | .binary op lhs rhs => do
    guarded (lhs.precedence < op.precedence) lhs.render
    text (" " ++ op.sql ++ " ")
    guarded (rhs.precedence ≤ op.precedence) rhs.render
  | .call f distinct args => do
    text (f.sql ++ "(" ++ if distinct then "DISTINCT " else "")
    separated ", " (renderEach args)
    text ")"
  | .countRows => text "COUNT(*)"
  | .cast e type => do
    text "CAST("
    e.render
    text (" AS " ++ type ++ ")")
  | .scalar query => nested query.render

/-- The expressions one by one. -/
def renderEach : List Expr → List Render
  | [] => []
  | e :: rest => e.render :: renderEach rest

/-- The operands of AND or OR one by one. -/
def renderOperands (op : LogicalOp) : List Expr → List Render
  | [] => []
  | e :: rest => guarded (e.isOtherLogical op) e.render :: renderOperands op rest

def renderEscape : Option Expr → Render
  | none => pure ()
  | some e => do
    text " ESCAPE "
    guarded (e.precedence ≤ predicateLevel) e.render

/-- A condition behind its keyword. -/
def renderCondition (keyword : String) : Option Expr → Render
  | none => pure ()
  | some e => do
    text keyword
    e.render

def renderItems : List ResultItem → List Render
  | [] => []
  | .column c :: rest => qualified c.qualifier c.name :: renderItems rest
  | .labelled _ e _ :: rest => e.render :: renderItems rest

def renderSort : List SortTerm → List Render
  | [] => []
  | ⟨e, order⟩ :: rest =>
    (do
      e.render
      text order.sql) :: renderSort rest

def Select.render : Select → Render
  | ⟨source, distinct, items, filter, groupBy, having, orderBy, limit, offset, errors⟩ => do
    deferAll errors
    within (.ofSource source) do
      text (if distinct then "SELECT DISTINCT " else "SELECT ")
      let columns := (Scope.ofSource source).columns
      let entries :=
        match items with
        | [] => columns.map ResultEntry.column
        | items => items.map ResultItem.entry
      let parts :=
        match items with
        | [] => renderColumns columns
        | items => renderItems items
      deferAll (if entries.isEmpty then [.noResultColumns] else [])
      separated ", " (renderListed [] ((nameEntries [] entries).zip parts))
      renderFrom source
      renderCondition " WHERE " filter
      clause " GROUP BY " (renderEach groupBy)
      renderCondition " HAVING " having
      clause " ORDER BY " (renderSort orderBy)
      renderLimit limit offset

def renderFrom : Option Source → Render
  | none => pure ()
  | some s => do
    text " FROM "
    s.render

def renderBranches : List Branch → Render
  | [] => pure ()
  | ⟨operator, query⟩ :: rest => do
    text (" " ++ operator.sql ++ " ")
    query.render
    renderBranches rest

def Query.render : Query → Render
  | .select q => q.render
  | .compound ⟨first, branches, orderBy, limit, offset, errors⟩ => do
    deferAll errors
    first.render
    renderBranches branches
    clause " ORDER BY " (orderBy.map fun (i, order) => text (toString (i + 1) ++ order.sql))
    renderLimit limit offset

def Relation.render : Relation → Render
  | .table t => identifier t.name
  | .view _ name _ => identifier name
  | .subquery _ q => nested q.render

def Source.render : Source → Render
  | .relation r => r.render
  | .alias _ name r => do
    r.render
    text " AS "
    identifier name
  | .join kind lhs rhs on => do
    deferAll (joinErrors lhs rhs kind on)
    lhs.render
    text (" " ++ kind.sql ++ " ")
    guarded rhs.isJoin rhs.render
    renderCondition " ON " on

end

/-! ## Statements -/

/-- The scope of the rows a statement changes. -/
def Table.scope (t : Table) : Scope := ⟨t.name, t.columns⟩

def Insert.render (i : Insert) : Render := do
  deferAll i.values.errors
  text <|
    match i.conflict with
    | none => "INSERT INTO "
    | some .replace => "INSERT OR REPLACE INTO "
    | some .ignore => "INSERT OR IGNORE INTO "
  identifier i.table.name
  if i.values.pairs.isEmpty then text " DEFAULT VALUES"
  else do
    text " ("
    separated ", " (i.values.pairs.map fun (c, _) => identifier c.name)
    text ") VALUES ("
    separated ", " (i.values.pairs.map fun (_, e) => e.render)
    text ")"

def Update.render (u : Update) : Render := do
  deferAll u.assignments.errors
  within u.table.scope do
    text "UPDATE "
    identifier u.table.name
    text " SET "
    separated ", " <| u.assignments.pairs.map fun (c, e) => do
      identifier c.name
      text " = "
      e.render
    renderCondition " WHERE " u.filter

def Delete.render (d : Delete) : Render :=
  within d.table.scope do
    text "DELETE FROM "
    identifier d.table.name
    renderCondition " WHERE " d.filter

def Statement.render : Statement → Render
  | .query q => q.render
  | .insert i => i.render
  | .update u => u.render
  | .delete d => d.render

end TypedSql
