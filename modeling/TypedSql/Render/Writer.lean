import TypedSql.Render.Pool

/-!
# Writing into pooled builders

The text of a statement is written into a builder from the pool. A nested query gets a builder of
its own, whose text is copied into the enclosing one, between parentheses, when the query ends;
after that the builder goes back.
-/

namespace TypedSql

/-- The builders in use, the innermost first, and the pool they come from. -/
structure Writer where
  top : Builder
  below : List Builder
  pool : Pool

namespace Writer

/-- Takes a first builder. -/
def start (p : Pool) : Writer :=
  let (loan, pool) := p.acquire
  { top := loan.builder, below := [], pool }

/-- Appends to the innermost builder. -/
def push (w : Writer) (s : String) : Writer := { w with top := w.top.push s }

/-- Takes a builder for a nested query. -/
def enter (w : Writer) : Writer :=
  let (loan, pool) := w.pool.acquire
  { top := loan.builder, below := w.top :: w.below, pool }

/-- Copies a nested query into the enclosing one and gives its builder back. -/
def leave (w : Writer) : Writer :=
  match w.below with
  | [] => w
  | outer :: below =>
    { top := ((outer.push "(").push w.top.text).push ")"
      below := below
      pool := w.pool.release w.top }

/-- Gives every builder back. -/
def finish (w : Writer) : Pool := (w.top :: w.below).foldl Pool.release w.pool

end Writer
end TypedSql
