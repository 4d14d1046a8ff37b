import TypedSql.Schema.Table

/-!
# The order to create tables in

Referenced tables come before the tables that refer to them. At every step the first table in the
order of declaration whose references are all placed comes next. References of a table to itself
and to tables outside the list do not count.

Where a circle of references stops the order, the error names the tables between circles: those
left when the tables that no other remaining table refers to have been taken away.
-/

namespace TypedSql

namespace CreationOrder

/-- The position of a table, the last one where an identity occurs twice. -/
def position? (tables : List Table) (id : SetId) : Option Nat :=
  (List.range tables.length).reverse.find? fun i => (tables[i]?.map Table.id) == some id

/-- The positions of the listed tables that the table at a position refers to, each once. -/
def targets (tables : List Table) (i : Nat) : List Nat :=
  match tables[i]? with
  | some t => (t.references.filterMap (position? tables)).eraseDups
  | none => []

/-- How many references of a table are not placed yet. -/
def waiting (tables : List Table) (placed : List Nat) (i : Nat) : Nat :=
  ((targets tables i).filter (!placed.contains ·)).length

/-- The first table that can be placed. -/
def next? (tables : List Table) (placed : List Nat) : Option Nat :=
  (List.range tables.length).find? fun i =>
    !placed.contains i && waiting tables placed i == 0

/-- Places tables as long as one can be placed, `fuel` of them at most. -/
def place (tables : List Table) (placed : List Nat) : Nat → List Nat
  | 0 => placed
  | fuel + 1 =>
    match next? tables placed with
    | some i => place tables (placed ++ [i]) fuel
    | none => placed

/-- One of the remaining tables refers to `i`. -/
def isReferenced (tables : List Table) (remaining : List Nat) (i : Nat) : Bool :=
  remaining.any fun j => (targets tables j).contains i

/-- Takes away tables that no remaining table refers to, `fuel` of them at most. -/
def peel (tables : List Table) (remaining : List Nat) : Nat → List Nat
  | 0 => remaining
  | fuel + 1 =>
    match remaining.find? fun i => !isReferenced tables remaining i with
    | some i => peel tables (remaining.filter (· != i)) fuel
    | none => remaining

/-- The first table whose name an earlier one has, case aside. -/
def duplicate? (tables : List Table) : Option Table :=
  let rec go (earlier : List Table) : List Table → Option Table
    | [] => none
    | t :: rest =>
      if earlier.any (Text.sameName ·.name t.name) then some t else go (t :: earlier) rest
  go [] tables

end CreationOrder

open CreationOrder in
/-- The tables in an order of creation, or why there is none. -/
def creationOrder (tables : List Table) : Except SchemaError (List Table) :=
  match duplicate? tables with
  | some t => .error (.duplicateTable t.name)
  | none =>
    let n := tables.length
    let placed := place tables [] n
    if placed.length = n then .ok (placed.filterMap (tables[·]?))
    else
      let remaining := (List.range n).filter (!placed.contains ·)
      .error (.foreignKeyCycle
        ((peel tables remaining n).filterMap fun i => tables[i]?.map Table.name))

end TypedSql
