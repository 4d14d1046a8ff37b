import TypedSql.Proofs.Grammar.Parser

/-!
# What expressions mean

An expression and what its text is read as are evaluated side by side. AND, OR and NOT are those of
three-valued logic; everything else is left to an interpretation: the values, the atoms, the
operators and the functions. Nested queries are interpreted as a whole, from their tokens.

A conjunction of one operand is the operand, and one of none is true. Membership in a list is
equality with one of its members, so that nothing is a member of the empty list.
-/

namespace TypedSql

universe u

/-- AND and OR where a truth value may be unknown. -/
def LogicalOp.kleene : LogicalOp → Option Bool → Option Bool → Option Bool
  | .and, some true, b => b
  | .and, some false, _ => some false
  | .and, none, some false => some false
  | .and, none, _ => none
  | .or, some false, b => b
  | .or, some true, _ => some true
  | .or, none, some true => some true
  | .or, none, _ => none

theorem LogicalOp.kleene_assoc (op : LogicalOp) (a b c : Option Bool) :
    op.kleene (op.kleene a b) c = op.kleene a (op.kleene b c) := by
  cases op <;> rcases a with _ | _ | _ <;> rcases b with _ | _ | _ <;> rcases c with _ | _ | _ <;>
    rfl

/-- The truth value of no operands. -/
def LogicalOp.neutral : LogicalOp → Bool
  | .and => true
  | .or => false

/-- What the atoms and operators of expressions mean. -/
structure Interpretation (V : Type u) where
  /-- The truth value of a value, none if it is unknown. -/
  truth : V → Option Bool
  ofTruth : Option Bool → V
  truth_ofTruth : ∀ b, truth (ofTruth b) = b
  reference : Option String → String → V
  mark : Placeholder → V
  scalar : List Token → V
  existsIn : List Token → Option Bool
  compare : CompareOp → V → V → Option Bool
  like : V → V → Option V → Option Bool
  isNull : V → Option Bool
  between : V → V → V → Option Bool
  inQuery : V → List Token → Option Bool
  binary : BinaryOp → V → V → V
  call : SqlFunction → Bool → List V → V
  countRows : V
  cast : V → String → V

namespace Interpretation

variable {V : Type u} (I : Interpretation V)

/-- The value of a predicate. -/
def test (negated : Bool) (b : Option Bool) : V :=
  I.ofTruth (if negated then b.map Bool.not else b)

def connect (op : LogicalOp) (v w : V) : V := I.ofTruth (op.kleene (I.truth v) (I.truth w))

/-- The value equals one of the list. -/
def member (v : V) (vs : List V) : Option Bool :=
  vs.foldl (fun b w => LogicalOp.or.kleene b (I.compare .eq v w)) (some false)

theorem connect_assoc (op : LogicalOp) (v w x : V) :
    I.connect op (I.connect op v w) x = I.connect op v (I.connect op w x) := by
  simp only [connect, I.truth_ofTruth, op.kleene_assoc]

/-- What is combined first can be combined with the rest from the left. -/
theorem connect_foldl (op : LogicalOp) (v w : V) (vs : List V) :
    I.connect op v (vs.foldl (I.connect op) w) = vs.foldl (I.connect op) (I.connect op v w) := by
  induction vs generalizing w with
  | nil => rfl
  | cons x vs ih => rw [List.foldl_cons, List.foldl_cons, ih, connect_assoc]

end Interpretation

/-! ## Expressions -/

/-- A column as its text names it. -/
def ColumnRef.written (c : ColumnRef) : Option String :=
  if c.qualifier.isEmpty then none else some c.qualifier

section

variable {V : Type u} (I : Interpretation V) (scopes : List Scope)

mutual

/-- The value of an expression inside the scopes. -/
def Expr.eval : Expr → V
  | .column c => I.reference c.written c.name
  | .label name => I.reference none name
  | .bind p => I.mark p
  | .compare op lhs rhs => I.test false (I.compare op lhs.eval rhs.eval)
  | .like negated e pattern escape =>
    I.test negated (I.like e.eval pattern.eval (optionEval escape))
  | .isNull negated e => I.test negated (I.isNull e.eval)
  | .between negated e low high => I.test negated (I.between e.eval low.eval high.eval)
  | .inList negated e items => I.test negated (I.member e.eval (listEval items))
  | .inQuery negated e query => I.test negated (I.inQuery e.eval (tokens (query.pieces scopes)))
  | .existsIn negated query => I.test negated (I.existsIn (tokens (query.pieces scopes)))
  | .logical op [] => I.test false (some op.neutral)
  | .logical op (e :: operands) => (listEval operands).foldl (I.connect op) e.eval
  | .not e => I.test true (I.truth e.eval)
  | .binary op lhs rhs => I.binary op lhs.eval rhs.eval
  | .call f distinct args => I.call f distinct (listEval args)
  | .countRows => I.countRows
  | .cast e type => I.cast e.eval type
  | .scalar query => I.scalar (tokens (query.pieces scopes))

def optionEval : Option Expr → Option V
  | none => none
  | some e => some e.eval

def listEval : List Expr → List V
  | [] => []
  | e :: rest => e.eval :: listEval rest

end

end

/-! ## Trees -/

section

variable {V : Type u} (I : Interpretation V)

mutual

/-- The value of what a text is read as. -/
def Tree.eval : Tree → V
  | .reference qualifier name => I.reference qualifier name
  | .mark p => I.mark p
  | .truth value => I.test false (some value)
  | .compare op lhs rhs => I.test false (I.compare op lhs.eval rhs.eval)
  | .like negated t pattern escape =>
    I.test negated (I.like t.eval pattern.eval (optionTreeEval escape))
  | .isNull negated t => I.test negated (I.isNull t.eval)
  | .between negated t low high => I.test negated (I.between t.eval low.eval high.eval)
  | .inList negated t items => I.test negated (I.member t.eval (listTreeEval items))
  | .inQuery negated t body => I.test negated (I.inQuery t.eval body)
  | .existsIn body => I.test false (I.existsIn body)
  | .logical op lhs rhs => I.connect op lhs.eval rhs.eval
  | .not t => I.test true (I.truth t.eval)
  | .binary op lhs rhs => I.binary op lhs.eval rhs.eval
  | .call f distinct args => I.call f distinct (listTreeEval args)
  | .countRows => I.countRows
  | .cast t type => I.cast t.eval type
  | .scalar body => I.scalar body

def optionTreeEval : Option Tree → Option V
  | none => none
  | some t => some t.eval

def listTreeEval : List Tree → List V
  | [] => []
  | t :: rest => t.eval :: listTreeEval rest

end

/-- A placeholder has the value of the mark that is read in its place. -/
theorem Tree.eval_mark (scopes : List Scope) (p : Placeholder) :
    (Tree.mark p).eval I = (Expr.bind p).eval I scopes := by
  rw [Tree.eval, Expr.eval]

end

end TypedSql
