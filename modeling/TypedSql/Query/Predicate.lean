import TypedSql.Query.Expression

/-!
# Predicates

Conditions are built by comparing expressions and combined by AND, OR and NOT. Combining keeps
them flat: an AND under an AND and an OR under an OR give their operands to it, and NOT is taken
into the predicates that have a negated form.
-/

namespace TypedSql

namespace Expr

/-- The operands of a conjunction or disjunction, any other expression by itself. -/
def operandsOf (op : LogicalOp) : Expr → List Expr
  | .logical inner operands => if inner = op then operands else [.logical inner operands]
  | e => [e]

/-- Conjunction or disjunction of two. -/
def combine (op : LogicalOp) (lhs rhs : Expr) : Expr :=
  .logical op (lhs.operandsOf op ++ rhs.operandsOf op)

/-- Logical negation. -/
def negate : Expr → Expr
  | .not e => e
  | .like negated e pattern escape => .like (!negated) e pattern escape
  | .isNull negated e => .isNull (!negated) e
  | .between negated e low high => .between (!negated) e low high
  | .inList negated e items => .inList (!negated) e items
  | .inQuery negated e query => .inQuery (!negated) e query
  | .existsIn negated query => .existsIn (!negated) query
  | e => .not e

/-- A condition added to one that may be there. -/
def andAlso (filter : Option Expr) (e : Expr) : Expr :=
  match filter with
  | some f => combine .and f e
  | none => e

end Expr

/-- A condition. -/
structure Predicate where
  expr : Expr

namespace Predicate

def and (p q : Predicate) : Predicate := ⟨.combine .and p.expr q.expr⟩

def or (p q : Predicate) : Predicate := ⟨.combine .or p.expr q.expr⟩

def not (p : Predicate) : Predicate := ⟨p.expr.negate⟩

/-- Combines from left to right; one predicate stands for itself. -/
def fold (op : LogicalOp) : List Predicate → Predicate
  | [] => ⟨.logical op []⟩
  | p :: rest => ⟨rest.foldl (fun e q => .combine op e q.expr) p.expr⟩

/-- All of them hold. -/
def all (ps : List Predicate) : Predicate := fold .and ps

/-- One of them holds. -/
def any (ps : List Predicate) : Predicate := fold .or ps

def existsIn (negated : Bool) (q : Select) : Predicate := ⟨.existsIn negated q⟩

end Predicate

namespace Expression

variable {t : ValueType}

def compare (op : CompareOp) (e : Expression t) (o : Operand t) : Predicate :=
  ⟨.compare op e.expr (o.toExpr e.descriptor)⟩

def isNull (e : Expression t) (negated : Bool) : Predicate := ⟨.isNull negated e.expr⟩

def between (e : Expression t) (negated : Bool) (low high : Operand t) : Predicate :=
  ⟨.between negated e.expr (low.toExpr e.descriptor) (high.toExpr e.descriptor)⟩

def inList (e : Expression t) (negated : Bool) (items : List (Operand t)) : Predicate :=
  ⟨.inList negated e.expr (items.map (·.toExpr e.descriptor))⟩

def inQuery (e : Expression t) (negated : Bool) (q : Select) : Predicate :=
  ⟨.inQuery negated e.expr q⟩

def like (e : Expression .text) (negated : Bool) (pattern : Operand .text) : Predicate :=
  ⟨.like negated e.expr (pattern.toExpr e.descriptor) none⟩

/-- LIKE with a character that takes the meaning from the one behind it. -/
def likeEscape (e : Expression .text) (pattern : Operand .text) (escape : Char) : Predicate :=
  ⟨.like false e.expr (pattern.toExpr e.descriptor)
    (some ((Operand.value (some escape.toString)).toExpr e.descriptor))⟩

/-- A truth value as a condition. -/
def toPredicate (e : Expression .bool) : Predicate := ⟨e.expr⟩

end Expression

namespace CompositeColumn

variable {α : Type}

/-- One placeholder for each component. Components missing from the split value are NULL; a value
that cannot be split leaves its error in every one. -/
def presets (c : CompositeColumn α) (value : α) : List Placeholder :=
  c.parts.mapIdx fun i part =>
    .preset part.type ((c.kind.split value).map fun vs => vs[i]?.getD .null)

/-- Every component equals that of the value. -/
def eq (c : CompositeColumn α) (value : α) : Predicate :=
  .all (c.parts.zipWith (fun part p => ⟨.compare .eq (.column part) (.bind p)⟩) (c.presets value))

/-- Every component is NULL. -/
def isNull (c : CompositeColumn α) : Predicate :=
  .all (c.parts.map fun part => ⟨.isNull false (.column part)⟩)

end CompositeColumn
end TypedSql
