import TypedSql.Query.Predicate

/-!
# Chains of predicates

Predicates folded with AND or OR end up as one row of operands: whatever is combined with a row
gives its own operands to the end of it (`Expr.foldl_combine`).
-/

namespace TypedSql

namespace Expr

/-- The operator over the operands, a single one by itself. -/
def chain (op : LogicalOp) : List Expr → Expr
  | [e] => e
  | es => .logical op es

theorem operandsOf_logical (op : LogicalOp) (operands : List Expr) :
    (logical op operands).operandsOf op = operands := if_pos rfl

/-- Combining goes on from a row of operands. -/
theorem foldl_combine (op : LogicalOp) (operands : List Expr) (ps : List Predicate) :
    ps.foldl (fun e q => combine op e q.expr) (.logical op operands)
      = .logical op (operands ++ ps.flatMap fun p => p.expr.operandsOf op) := by
  induction ps generalizing operands with
  | nil => rw [List.foldl_nil, List.flatMap_nil, List.append_nil]
  | cons p ps ih =>
    rw [List.foldl_cons, combine, operandsOf_logical, ih, List.flatMap_cons, List.append_assoc]

end Expr

namespace Predicate

/-- Two predicates and more are folded into one row of all their operands. -/
theorem fold_of_two (op : LogicalOp) (p q : Predicate) (ps : List Predicate) :
    (fold op (p :: q :: ps)).expr
      = .logical op ((p :: q :: ps).flatMap fun p => p.expr.operandsOf op) := by
  rw [fold, List.foldl_cons, Expr.combine, Expr.foldl_combine, List.flatMap_cons,
    List.flatMap_cons, List.append_assoc]

/-- Predicates that are no rows themselves are the operands of what they are folded into. -/
theorem fold_of_single {op : LogicalOp} {ps : List Predicate}
    (single : ∀ p ∈ ps, p.expr.operandsOf op = [p.expr]) :
    (fold op ps).expr = .chain op (ps.map expr) := by
  match ps with
  | [] => rfl
  | [p] => rfl
  | p :: q :: ps =>
    rw [fold_of_two, List.flatMap_def, List.map_congr_left single, ← List.flatMap_def]
    exact congrArg (Expr.logical op) List.map_eq_flatMap.symm

end Predicate
end TypedSql
