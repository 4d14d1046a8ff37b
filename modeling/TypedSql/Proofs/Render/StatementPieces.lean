import TypedSql.Proofs.Render.Piece
import TypedSql.Render.Query

/-!
# Statements as pieces

The pieces of a statement, clause by clause. The scopes of the enclosing queries are handed down,
the innermost first.
-/

namespace TypedSql

/-- The mistake of a column that no enclosing query can see. Outside all queries, every column
passes. -/
def scopeFaults (scopes : List Scope) (c : ColumnRef) : List Piece :=
  match scopes with
  | [] => []
  | innermost :: _ =>
    if scopes.any fun s => containsKey s.columns c.key then []
    else [.fault (.columnNotInSet c.display innermost.name)]

/-- `LIMIT` and `OFFSET`; an offset needs a limit in front, and -1 is none. -/
def limitPieces : Option Placeholder → Option Placeholder → List Piece
  | some l, some o => [.text " LIMIT ", .slot l, .text " OFFSET ", .slot o]
  | some l, none => [.text " LIMIT ", .slot l]
  | none, some o => [.text " LIMIT -1 OFFSET ", .slot o]
  | none, none => []

/-- A clause with its keyword, nothing if there are no parts. -/
def clausePieces (keyword : String) : List (List Piece) → List Piece
  | [] => []
  | parts => .text keyword :: Piece.separated ", " parts

/-- The parts of a select list with their names in the result; a name that occurs again is a
mistake. -/
def selectList (seen : List String) : List (NamedEntry × List Piece) → List (List Piece)
  | [] => []
  | (e, ps) :: rest =>
    let repeated :=
      if seen.contains e.name then [Piece.fault (.duplicateColumn "result" e.name)] else []
    let label :=
      match e.entry with
      | .labelled .. => [Piece.text " AS ", .name e.name]
      | .column _ => if e.renamed then [Piece.text " AS ", .name e.name] else []
    (repeated ++ ps ++ label) :: selectList (e.name :: seen) rest

/-- The columns of a source as parts of a select list. -/
def sourceParts (columns : List ColumnRef) : List (List Piece) :=
  columns.map fun c => Piece.qualified c.qualifier c.name

mutual

def Expr.pieces (scopes : List Scope) : Expr → List Piece
  | .column c => scopeFaults scopes c ++ Piece.qualified c.qualifier c.name
  | .label name => [.name name]
  | .bind p => [.slot p]
  | .compare op lhs rhs =>
    Piece.guarded (lhs.precedence ≤ predicateLevel) (lhs.pieces scopes)
      ++ .text (" " ++ op.sql ++ " ")
      :: Piece.guarded (rhs.precedence ≤ predicateLevel) (rhs.pieces scopes)
  | .like negated e pattern escape =>
    Piece.guarded (e.precedence ≤ predicateLevel) (e.pieces scopes)
      ++ .text (negatable negated "LIKE ")
      :: Piece.guarded (pattern.precedence ≤ predicateLevel) (pattern.pieces scopes)
      ++ escapePieces scopes escape
  | .isNull negated e =>
    Piece.guarded (e.precedence ≤ predicateLevel) (e.pieces scopes)
      ++ [.text (if negated then " IS NOT NULL" else " IS NULL")]
  | .between negated e low high =>
    Piece.guarded (e.precedence ≤ predicateLevel) (e.pieces scopes)
      ++ .text (negatable negated "BETWEEN ")
      :: Piece.guarded (low.precedence ≤ predicateLevel) (low.pieces scopes)
      ++ .text " AND "
      :: Piece.guarded (high.precedence ≤ predicateLevel) (high.pieces scopes)
  -- Nothing is in the empty list, whatever is looked for.
  | .inList negated _ [] => [.text (if negated then "TRUE" else "FALSE")]
  | .inList negated e (item :: items) =>
    Piece.guarded (e.precedence ≤ predicateLevel) (e.pieces scopes)
      ++ .text (negatable negated "IN (")
      :: Piece.separated ", " (item.pieces scopes :: listPieces scopes items)
      ++ [.text ")"]
  | .inQuery negated e query =>
    Piece.guarded (e.precedence ≤ predicateLevel) (e.pieces scopes)
      ++ .text (negatable negated "IN ")
      :: Piece.nested (query.pieces scopes)
  | .existsIn negated query =>
    .text (if negated then "NOT EXISTS " else "EXISTS ") :: Piece.nested (query.pieces scopes)
  | .logical op [] => [.text op.identity]
  | .logical op (e :: operands) =>
    Piece.separated op.separator
      (Piece.guarded (e.isOtherLogical op) (e.pieces scopes) :: logicalPieces op scopes operands)
  | .not e => .text "NOT " :: Piece.guarded (e.precedence < atomLevel) (e.pieces scopes)
  | .binary op lhs rhs =>
    Piece.guarded (lhs.precedence < op.precedence) (lhs.pieces scopes)
      ++ .text (" " ++ op.sql ++ " ")
      :: Piece.guarded (rhs.precedence ≤ op.precedence) (rhs.pieces scopes)
  | .call f distinct args =>
    .text (f.sql ++ "(" ++ if distinct then "DISTINCT " else "")
      :: Piece.separated ", " (listPieces scopes args) ++ [.text ")"]
  | .countRows => [.text "COUNT(*)"]
  | .cast e type => .text "CAST(" :: e.pieces scopes ++ [.text (" AS " ++ type ++ ")")]
  | .scalar query => Piece.nested (query.pieces scopes)

/-- The expressions one by one. -/
def listPieces (scopes : List Scope) : List Expr → List (List Piece)
  | [] => []
  | e :: rest => e.pieces scopes :: listPieces scopes rest

/-- The operands of AND or OR one by one. -/
def logicalPieces (op : LogicalOp) (scopes : List Scope) : List Expr → List (List Piece)
  | [] => []
  | e :: rest =>
    Piece.guarded (e.isOtherLogical op) (e.pieces scopes) :: logicalPieces op scopes rest

def escapePieces (scopes : List Scope) : Option Expr → List Piece
  | none => []
  | some e =>
    .text " ESCAPE " :: Piece.guarded (e.precedence ≤ predicateLevel) (e.pieces scopes)

/-- A condition behind its keyword. -/
def conditionPieces (keyword : String) (scopes : List Scope) : Option Expr → List Piece
  | none => []
  | some e => .text keyword :: e.pieces scopes

def itemPieces (scopes : List Scope) : List ResultItem → List (List Piece)
  | [] => []
  | .column c :: rest => Piece.qualified c.qualifier c.name :: itemPieces scopes rest
  | .labelled _ e _ :: rest => e.pieces scopes :: itemPieces scopes rest

def sortPieces (scopes : List Scope) : List SortTerm → List (List Piece)
  | [] => []
  | ⟨e, order⟩ :: rest => (e.pieces scopes ++ [.text order.sql]) :: sortPieces scopes rest

def Select.pieces (outer : List Scope) : Select → List Piece
  | ⟨source, distinct, items, filter, groupBy, having, orderBy, limit, offset, errors⟩ =>
    let scope := Scope.ofSource source
    let scopes := scope :: outer
    let entries :=
      match items with
      | [] => scope.columns.map ResultEntry.column
      | items => items.map ResultItem.entry
    let parts :=
      match items with
      | [] => sourceParts scope.columns
      | items => itemPieces scopes items
    errors.map Piece.fault
      ++ .text (if distinct then "SELECT DISTINCT " else "SELECT ")
      :: (if entries.isEmpty then [Piece.fault .noResultColumns] else [])
      ++ Piece.separated ", " (selectList [] ((nameEntries [] entries).zip parts))
      ++ fromPieces scopes source
      ++ conditionPieces " WHERE " scopes filter
      ++ clausePieces " GROUP BY " (listPieces scopes groupBy)
      ++ conditionPieces " HAVING " scopes having
      ++ clausePieces " ORDER BY " (sortPieces scopes orderBy)
      ++ limitPieces limit offset

def fromPieces (scopes : List Scope) : Option Source → List Piece
  | none => []
  | some s => .text " FROM " :: s.pieces scopes

def branchPieces (scopes : List Scope) : List Branch → List Piece
  | [] => []
  | ⟨operator, query⟩ :: rest =>
    .text (" " ++ operator.sql ++ " ") :: query.pieces scopes ++ branchPieces scopes rest

def Query.pieces (scopes : List Scope) : Query → List Piece
  | .select q => q.pieces scopes
  | .compound ⟨first, branches, orderBy, limit, offset, errors⟩ =>
    errors.map Piece.fault
      ++ first.pieces scopes
      ++ branchPieces scopes branches
      ++ clausePieces " ORDER BY "
        (orderBy.map fun (i, order) => [.text (toString (i + 1) ++ order.sql)])
      ++ limitPieces limit offset

def Relation.pieces (scopes : List Scope) : Relation → List Piece
  | .table t => [.name t.name]
  | .view _ name _ => [.name name]
  | .subquery _ q => Piece.nested (q.pieces scopes)

def Source.pieces (scopes : List Scope) : Source → List Piece
  | .relation r => r.pieces scopes
  | .alias _ name r => r.pieces scopes ++ [.text " AS ", .name name]
  | .join kind lhs rhs on =>
    (joinErrors lhs rhs kind on).map Piece.fault
      ++ lhs.pieces scopes
      ++ .text (" " ++ kind.sql ++ " ")
      :: Piece.guarded rhs.isJoin (rhs.pieces scopes)
      ++ conditionPieces " ON " scopes on

end

/-! ## Statements -/

def Insert.pieces (i : Insert) : List Piece :=
  let verb :=
    match i.conflict with
    | none => "INSERT INTO "
    | some .replace => "INSERT OR REPLACE INTO "
    | some .ignore => "INSERT OR IGNORE INTO "
  let row :=
    if i.values.pairs.isEmpty then [Piece.text " DEFAULT VALUES"]
    else
      .text " (" :: Piece.separated ", " (i.values.pairs.map fun (c, _) => [.name c.name])
        ++ .text ") VALUES ("
        :: Piece.separated ", " (i.values.pairs.map fun (_, e) => e.pieces [])
        ++ [.text ")"]
  i.values.errors.map Piece.fault ++ .text verb :: .name i.table.name :: row

def Update.pieces (u : Update) : List Piece :=
  let scopes := [u.table.scope]
  u.assignments.errors.map Piece.fault
    ++ .text "UPDATE " :: .name u.table.name :: .text " SET "
    :: Piece.separated ", "
      (u.assignments.pairs.map fun (c, e) => .name c.name :: .text " = " :: e.pieces scopes)
    ++ conditionPieces " WHERE " scopes u.filter

def Delete.pieces (d : Delete) : List Piece :=
  .text "DELETE FROM " :: .name d.table.name :: conditionPieces " WHERE " [d.table.scope] d.filter

def Statement.pieces : Statement → List Piece
  | .query q => q.pieces []
  | .insert i => i.pieces
  | .update u => u.pieces
  | .delete d => d.pieces

end TypedSql
