import TypedSql.Library.Calendar
import TypedSql.Library.Decimal
import TypedSql.Library.Uuid

/-!
# The libraries of values

The kinds of dates, decimals and identifiers store values of three libraries. A definition that
calls one of them has the three as a parameter.
-/

namespace TypedSql

class Libraries where
  calendar : CalendarLibrary
  decimals : DecimalLibrary
  uuids : UuidLibrary

end TypedSql
