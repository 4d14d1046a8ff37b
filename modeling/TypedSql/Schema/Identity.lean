/-!
# Identities

Column sets and placeholders are told apart by numbers handed out from a supply, so that two sets
of one name stay different. A column is known by its set and its name.
-/

namespace TypedSql

/-- A column set: a table, an alias, a view, a subquery or the label of a projection. -/
structure SetId where
  index : Nat
deriving DecidableEq, Repr

/-- A placeholder, wherever it is written. -/
structure ParamId where
  index : Nat
deriving DecidableEq, Repr

/-- The identity of a column. -/
structure ColumnKey where
  set : SetId
  name : String
deriving DecidableEq, Repr

/-- Numbers not used yet: this one and all above it. -/
structure Supply where
  next : Nat := 1
deriving DecidableEq, Repr

namespace Supply

def set (s : Supply) : SetId × Supply := (⟨s.next⟩, ⟨s.next + 1⟩)

def param (s : Supply) : ParamId × Supply := (⟨s.next⟩, ⟨s.next + 1⟩)

end Supply
end TypedSql
