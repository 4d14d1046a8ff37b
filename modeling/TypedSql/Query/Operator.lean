/-!
# Operators and keywords

The closed vocabularies of queries, each with its spelling. `ofSql?` finds a member by its
spelling.
-/

namespace TypedSql

inductive CompareOp where
  | eq
  | ne
  | lt
  | le
  | gt
  | ge
deriving DecidableEq, Repr

def CompareOp.sql : CompareOp → String
  | .eq => "="
  | .ne => "<>"
  | .lt => "<"
  | .le => "<="
  | .gt => ">"
  | .ge => ">="

def CompareOp.ofSql? (s : String) : Option CompareOp :=
  [.eq, .ne, .lt, .le, .gt, .ge].find? (CompareOp.sql · == s)

inductive LogicalOp where
  | and
  | or
deriving DecidableEq, Repr

namespace LogicalOp

def separator : LogicalOp → String
  | .and => " AND "
  | .or => " OR "

/-- The value over no operands. -/
def identity : LogicalOp → String
  | .and => "TRUE"
  | .or => "FALSE"

end LogicalOp

inductive BinaryOp where
  | add
  | sub
  | mul
  | div
  | rem
  | concat
deriving DecidableEq, Repr

namespace BinaryOp

def sql : BinaryOp → String
  | .add => "+"
  | .sub => "-"
  | .mul => "*"
  | .div => "/"
  | .rem => "%"
  | .concat => "||"

def ofSql? (s : String) : Option BinaryOp :=
  [.add, .sub, .mul, .div, .rem, .concat].find? (sql · == s)

/-- How tightly the operator binds. -/
def precedence : BinaryOp → Nat
  | .add | .sub => 5
  | .mul | .div | .rem => 6
  | .concat => 7

end BinaryOp

/-- The functions of SQL that queries use. -/
inductive SqlFunction where
  | count
  | sum
  | avg
  | min
  | max
  | abs
  | lower
  | upper
  | length
  | coalesce
deriving DecidableEq, Repr

def SqlFunction.sql : SqlFunction → String
  | .count => "COUNT"
  | .sum => "SUM"
  | .avg => "AVG"
  | .min => "MIN"
  | .max => "MAX"
  | .abs => "ABS"
  | .lower => "LOWER"
  | .upper => "UPPER"
  | .length => "LENGTH"
  | .coalesce => "COALESCE"

def SqlFunction.ofSql? (s : String) : Option SqlFunction :=
  [.count, .sum, .avg, .min, .max, .abs, .lower, .upper, .length, .coalesce].find?
    (SqlFunction.sql · == s)

inductive SortOrder where
  | asc
  | desc
deriving DecidableEq, Repr

/-- Ascending order goes without saying. -/
def SortOrder.sql : SortOrder → String
  | .asc => ""
  | .desc => " DESC"

inductive JoinKind where
  | inner
  | left
  | cross
deriving DecidableEq, Repr

def JoinKind.sql : JoinKind → String
  | .inner => "INNER JOIN"
  | .left => "LEFT JOIN"
  | .cross => "CROSS JOIN"

def JoinKind.ofSql? (s : String) : Option JoinKind :=
  [.inner, .left, .cross].find? (JoinKind.sql · == s)

inductive SetOperator where
  | union
  | unionAll
  | intersect
  | except
deriving DecidableEq, Repr

def SetOperator.sql : SetOperator → String
  | .union => "UNION"
  | .unionAll => "UNION ALL"
  | .intersect => "INTERSECT"
  | .except => "EXCEPT"

def SetOperator.ofSql? (s : String) : Option SetOperator :=
  [.union, .unionAll, .intersect, .except].find? (SetOperator.sql · == s)

/-- What an INSERT does with a row that is there already. -/
inductive Conflict where
  | replace
  | ignore
deriving DecidableEq, Repr

end TypedSql
