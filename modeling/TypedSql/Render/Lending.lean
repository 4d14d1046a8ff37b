import TypedSql.Render.Pool

/-!
# Builders on loan

A pool together with the builders it has handed out, each under the name of its borrower. A
borrower that takes a second builder gives the first one back afterwards.
-/

namespace TypedSql

/-- A pool and its live builders. -/
structure Lending where
  pool : Pool
  live : List (String × Loan) := []

namespace Lending

def find? (l : Lending) (name : String) : Option Loan :=
  (l.live.find? (·.1 == name)).map (·.2)

/-- The builders of all other borrowers. -/
def others (l : Lending) (name : String) : List (String × Loan) :=
  l.live.filter (·.1 != name)

/-- Hands a builder out. -/
def acquire (l : Lending) (name : String) : Loan × Lending :=
  let (loan, pool) := l.pool.acquire
  let pool :=
    match l.find? name with
    | some old => pool.release old.builder
    | none => pool
  (loan, { pool, live := (name, loan) :: l.others name })

/-- Appends to a live builder. -/
def push? (l : Lending) (name text : String) : Option (Loan × Lending) :=
  (l.find? name).map fun loan =>
    let loan := { loan with builder := loan.builder.push text }
    (loan, { l with live := (name, loan) :: l.others name })

/-- Takes a live builder back. -/
def drop? (l : Lending) (name : String) : Option Lending :=
  (l.find? name).map fun loan =>
    { pool := l.pool.release loan.builder, live := l.others name }

end Lending
end TypedSql
