import TypedSql.Query.Columns

/-!
# Typed expressions

An expression carries the descriptor of its values: their type, how plain values beside it are
stored, and whether it can be NULL. Operators and functions compute the descriptor of their result
from those of their arguments.

A plain value becomes a placeholder with a preset value, encoded under the descriptor of the
expression or column it stands beside.
-/

namespace TypedSql

/-- An expression with values of type `t`. -/
structure Expression (t : ValueType) where
  expr : Expr
  descriptor : Descriptor t

/-- A placeholder for values of type `t`, bound when the statement is run. -/
structure Param (t : ValueType) where
  id : ParamId
  descriptor : Descriptor t

/-- An expression selected under a label. -/
structure Projection (t : ValueType) where
  key : ColumnKey
  expr : Expr
  descriptor : Descriptor t

/-- The right-hand side of a comparison, an operator or an assignment. -/
inductive Operand (t : ValueType) where
  | expr (e : Expr) (nullable : Bool)
  /-- A plain value, or NULL. -/
  | value (v : Option t.Value)

variable {t : ValueType}

def Column.toExpression (c : Column t) : Expression t := ⟨.column c.ref, c.descriptor⟩

def Param.toExpression (p : Param t) : Expression t :=
  ⟨.bind (.token p.id p.descriptor.erase), p.descriptor⟩

/-- A placeholder for the values of a column. -/
def Column.param (c : Column t) (id : ParamId) : Param t := ⟨id, c.descriptor⟩

namespace Projection

/-- Labels an expression; the label is the name of a set of its own. -/
def label (id : SetId) (name : String) (e : Expression t) :
    Except SchemaError (Projection t) := do
  validateName name
  return ⟨⟨id, name⟩, e.expr, e.descriptor⟩

def name (p : Projection t) : String := p.key.name

def target (p : Projection t) : Target t := ⟨p.key, p.descriptor, p.name⟩

/-- The bare label, which stands for the selected expression. -/
def toExpression (p : Projection t) : Expression t := ⟨.label p.name, p.descriptor⟩

end Projection

namespace Operand

def null : Operand t := .value none

def ofExpression (e : Expression t) : Operand t := .expr e.expr e.descriptor.nullable

def nullable : Operand t → Bool
  | .expr _ nullable => nullable
  | .value v => v.isNone

/-- The expression; a plain value is encoded under `d`. -/
def toExpr (o : Operand t) (d : Descriptor t) : Expr :=
  match o with
  | .expr e _ => e
  | .value v => .bind (.preset d.erase (d.bindValue v))

/-- The expression with nothing beside it: a plain value is encoded under the standard kind. -/
def toLoneExpr (o : Operand t) (k : Kind t) : Expr := o.toExpr ⟨k.standard, true⟩

end Operand

namespace Expression

def nullable (e : Expression t) : Bool := e.descriptor.nullable

/-- Arithmetic or concatenation; NULL on either side gives NULL. -/
def binary (op : BinaryOp) (e : Expression t) (o : Operand t) : Expression t :=
  ⟨.binary op e.expr (o.toExpr e.descriptor),
    e.descriptor.withNullable (e.nullable || o.nullable)⟩

/-! ## Functions -/

def whole (nullable : Bool) : Descriptor .int64 := ⟨.int64, nullable⟩

def countAll : Expression .int64 := ⟨.countRows, whole false⟩

def count (e : Expression t) (distinct : Bool) : Expression .int64 :=
  ⟨.call .count distinct [e.expr], whole false⟩

/-- An aggregate with values of the same type; NULL over an empty group. -/
def aggregate (f : SqlFunction) (e : Expression t) : Expression t :=
  ⟨.call f false [e.expr], e.descriptor.withNullable true⟩

def avg (e : Expression t) : Expression .float64 := ⟨.call .avg false [e.expr], ⟨.float64, true⟩⟩

/-- A function from a type to itself; NULL gives NULL. -/
def mapped (f : SqlFunction) (e : Expression t) : Expression t :=
  ⟨.call f false [e.expr], e.descriptor⟩

def length (e : Expression .text) : Expression .int64 :=
  ⟨.call .length false [e.expr], whole e.nullable⟩

/-- The first of the two that is not NULL. -/
def coalesce (e : Expression t) (fallback : Operand t) : Expression t :=
  ⟨.call .coalesce false [e.expr, fallback.toExpr e.descriptor],
    e.descriptor.withNullable (e.nullable && fallback.nullable)⟩

def cast {u : ValueType} (e : Expression t) (k : Kind u) : Expression u :=
  ⟨.cast e.expr k.declaredType, ⟨k, e.nullable⟩⟩

/-- The single value of a query; without a row it is NULL. -/
def scalar (q : Select) (d : Descriptor t) : Expression t := ⟨.scalar q, d.withNullable true⟩

end Expression
end TypedSql
